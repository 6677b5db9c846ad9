/-
What a JSON text says, as it is written.

A `Source` keeps the order of the text, repeated keys, and the place where the
text stops being JSON: there a container is not `closed`, or a value is `broken`.
Readers walk it from left to right, so that they meet the faults of a text in
their order.  It is built from tokens one at a time, with the open containers
on a stack.

* `Source.ofTokens`, `Source.ofText` — what a text says, and whether it ends there;
* `Source.value?` — the value, containers nested to a given depth only;
* `Source.isWhole` — whether a value can be skipped: only its form counts;
* `Json.parse?` — the value of a JSON text.
-/
import RecordStore.Json.Basic
import RecordStore.Json.Token

namespace RecordStore

/-- A JSON value as written, up to where the text breaks off. -/
inductive Source where
  | null
  | bool (b : Bool)
  | num (n : Option Number)
  | str (s : Option String)
  | arr (items : List Source) (closed : Bool)
  | obj (entries : List (Option String × Source)) (closed : Bool)
  | broken

namespace Source

/-- A container that is being read; what it holds so far, last first. -/
inductive Frame where
  | arr (before : List Source)
  | obj (before : List (Option String × Source)) (key : Option String)

namespace Frame

/-- The container with what it holds. -/
def source (closed : Bool) : Frame → Source
  | .arr before => .arr before.reverse closed
  | .obj before _ => .obj before.reverse closed

/-- Puts a value behind what the container holds. -/
def push (v : Source) : Frame → Frame
  | .arr before => .arr (v :: before)
  | .obj before key => .obj ((key, v) :: before) key

end Frame

/-- How far a text has been read: what must follow, and the open containers,
innermost first. -/
inductive Progress where
  /-- A value must follow. -/
  | value (frames : List Frame)
  /-- A value must follow, or the end of the array just opened. -/
  | firstItem (frames : List Frame)
  /-- A key must follow, or the end of the object just opened. -/
  | firstKey (frames : List Frame)
  /-- A key must follow. -/
  | key (frames : List Frame)
  /-- A colon must follow. -/
  | colon (frames : List Frame)
  /-- A comma must follow, or the end of the innermost container. -/
  | next (frame : Frame) (frames : List Frame)
  /-- The value is complete. -/
  | done (v : Source)
  /-- The text stopped being JSON; what it had said. -/
  | failed (v : Source)

namespace Progress

/-- The whole text said so far, when `inner` is the last of it. -/
def cut (inner : Source) (frames : List Frame) : Source :=
  frames.foldl (fun v frame => (frame.push v).source false) inner

/-- The whole text said so far, when the innermost container breaks off. -/
def cutFrame : List Frame → Source
  | [] => .broken
  | frame :: frames => cut (frame.source false) frames

/-- A value is complete. -/
def place (v : Source) : List Frame → Progress
  | [] => .done v
  | frame :: frames => .next (frame.push v) frames

/-- The first token of a value. -/
def startValue (frames : List Frame) : Token → Progress
  | .null => place .null frames
  | .bool b => place (.bool b) frames
  | .num n => place (.num n) frames
  | .str s => place (.str s) frames
  | .openArray => .firstItem (.arr [] :: frames)
  | .openObject => .firstKey (.obj [] none :: frames)
  | _ => .failed (cut .broken frames)

/-- The key of an entry. -/
def startEntry : List Frame → Token → Progress
  | .obj before _ :: frames, .str k => .colon (.obj before k :: frames)
  | frames, _ => .failed (cutFrame frames)

/-- The end of the innermost container, which is empty. -/
def closeEmpty : List Frame → Progress
  | [] => .failed .broken
  | frame :: frames => place (frame.source true) frames

/-- Takes one token in. -/
def step : Progress → Token → Progress
  | .value frames, t => startValue frames t
  | .firstItem frames, .closeArray => closeEmpty frames
  | .firstItem frames, t => startValue frames t
  | .firstKey frames, .closeObject => closeEmpty frames
  | .firstKey frames, t => startEntry frames t
  | .key frames, t => startEntry frames t
  | .colon frames, .colon => .value frames
  | .colon frames, _ => .failed (cutFrame frames)
  | .next (.arr before) frames, .comma => .value (.arr before :: frames)
  | .next (.obj before k) frames, .comma => .key (.obj before k :: frames)
  | .next (.arr before) frames, .closeArray => place ((Frame.arr before).source true) frames
  | .next (.obj before k) frames, .closeObject => place ((Frame.obj before k).source true) frames
  | .next frame frames, _ => .failed (cutFrame (frame :: frames))
  | .done v, _ => .failed v
  | .failed v, _ => .failed v

/-- What the text said, and whether that is a complete value and nothing else. -/
def finish : Progress → Source × Bool
  | .value frames => (cut .broken frames, false)
  | .firstItem frames => (cutFrame frames, false)
  | .firstKey frames => (cutFrame frames, false)
  | .key frames => (cutFrame frames, false)
  | .colon frames => (cutFrame frames, false)
  | .next frame frames => (cutFrame (frame :: frames), false)
  | .done v => (v, true)
  | .failed v => (v, false)

end Progress

/-- What the tokens say, and whether that is a complete value and nothing else. -/
def ofTokens (ts : List Token) : Source × Bool :=
  (ts.foldl Progress.step (.value [])).finish

/-- What a text says, and whether that is a complete value and nothing else. -/
def ofText (s : String) : Source × Bool := ofTokens (Token.ofChars s.toList)

mutual

/-- The value written, if it is complete, each part has a value, and containers
are nested at most `depth` deep. -/
def value? (depth : Nat) : Source → Option Json
  | .null => some .null
  | .bool b => some (.bool b)
  | .num n => n.map .num
  | .str s => s.map .str
  | .arr items closed =>
    match depth with
    | 0 => none
    | depth + 1 => do
      let vs ← values? depth items
      if closed then return .arr vs else none
  | .obj entries closed =>
    match depth with
    | 0 => none
    | depth + 1 => do
      let pairs ← pairs? depth entries
      if closed then return .obj (Entries.ofList pairs) else none
  | .broken => none

/-- The values of items. -/
def values? (depth : Nat) : List Source → Option (List Json)
  | [] => some []
  | s :: rest => do
    let v ← value? depth s
    let vs ← values? depth rest
    return v :: vs

/-- The keys and values of entries. -/
def pairs? (depth : Nat) : List (Option String × Source) → Option (List (String × Json))
  | [] => some []
  | (key, s) :: rest => do
    let key ← key
    let v ← value? depth s
    let ps ← pairs? depth rest
    return (key, v) :: ps

end

mutual

/-- Whether the value is complete, whatever stands in it. -/
def isWhole : Source → Bool
  | .arr items closed => closed && areWhole items
  | .obj entries closed => closed && entriesAreWhole entries
  | .broken => false
  | _ => true

def areWhole : List Source → Bool
  | [] => true
  | s :: rest => isWhole s && areWhole rest

def entriesAreWhole : List (Option String × Source) → Bool
  | [] => true
  | (_, s) :: rest => isWhole s && entriesAreWhole rest

end

mutual

/-- A value as it would be written. -/
def ofJson : Json → Source
  | .null => .null
  | .bool b => .bool b
  | .num n => .num (some n)
  | .str s => .str (some s)
  | .arr items => .arr (ofItems items) true
  | .obj entries => .obj (ofEntries entries) true

def ofItems : List Json → List Source
  | [] => []
  | v :: rest => ofJson v :: ofItems rest

def ofEntries : List (String × Json) → List (Option String × Source)
  | [] => []
  | (key, v) :: rest => (some key, ofJson v) :: ofEntries rest

end

/-- How deep the containers of a JSON text may be nested. -/
def maxDepth : Nat := 127

end Source

end RecordStore
