/-
Filters as JSON: an object with one key, the kind of the filter.

* `Filter.toJson` — the JSON of a filter;
* `Filter.ofJson` — the filter of a JSON value;
* `Filter.ofText` — the filter of a JSON text, whose faults are met in the order
  of the text.
-/
import RecordStore.Filter.Basic
import RecordStore.Json.Source

namespace RecordStore

/-- Why a value is no filter. -/
inductive FilterError where
  | tooManyBounds (found : Nat)
  | malformed
  deriving DecidableEq, Repr

/-- What a fault says of itself; a malformed filter says nothing. -/
def FilterError.message? : FilterError → Option String
  | .tooManyBounds found => some ("expected at most 2 range bounds, found " ++ Decimal.text found)
  | .malformed => none

/-- The bounds of a list of at most two. -/
def Bounds.ofList : List Json → Except FilterError Bounds
  | [] => .ok {}
  | [low] => .ok (Bounds.normalize { low := some low })
  | [low, high] => .ok (Bounds.normalize { low := some low, high := some high })
  | bounds => .error (.tooManyBounds bounds.length)

namespace Filter

mutual

/-- The JSON of a filter. -/
def toJson : Filter → Json
  | .matching fields => .obj [("match", .obj (fields.mapValues Constraint.toJson))]
  | .presence fields => .obj [("exists", .obj (fields.mapValues Json.bool))]
  | .range fields => .obj [("range", .obj (fields.mapValues Bounds.toJson))]
  | .and children => .obj [("and", .arr (toJsonAll children))]
  | .or children => .obj [("or", .arr (toJsonAll children))]
  | .not child => .obj [("not", toJson child)]

def toJsonAll : List Filter → List Json
  | [] => []
  | f :: rest => toJson f :: toJsonAll rest

end

/-- A truth value. -/
def flagOfJson : Json → Except FilterError Bool
  | .bool b => .ok b
  | _ => .error .malformed

/-- The bounds of a range. -/
def boundsOfJson : Json → Except FilterError Bounds
  | .arr bounds => Bounds.ofList bounds
  | _ => .error .malformed

/-- Reads the value of every entry, in order. -/
def readEntries {α : Type} (read : Json → Except FilterError α) :
    List (String × Json) → Except FilterError (Entries α)
  | [] => .ok []
  | (key, v) :: rest => do
    let a ← read v
    let others ← readEntries read rest
    return (key, a) :: others

/-- Reads a leaf. -/
def leafOfJson {α : Type} (make : Entries α → Filter) (read : Json → Except FilterError α) :
    Json → Except FilterError Filter
  | .obj entries => (readEntries read entries).map make
  | _ => .error .malformed

mutual

/-- The filter of a JSON value. -/
def ofJson : Json → Except FilterError Filter
  | .obj [(key, content)] =>
    match key with
    | "match" => leafOfJson .matching (fun v => .ok (.ofJson v)) content
    | "exists" => leafOfJson .presence flagOfJson content
    | "range" => leafOfJson .range boundsOfJson content
    | "and" => match content with
      | .arr items => (ofJsonAll items).map .and
      | _ => .error .malformed
    | "or" => match content with
      | .arr items => (ofJsonAll items).map .or
      | _ => .error .malformed
    | "not" => (ofJson content).map .not
    | _ => .error .malformed
  | _ => .error .malformed

def ofJsonAll : List Json → Except FilterError (List Filter)
  | [] => .ok []
  | v :: rest => do
    let f ← ofJson v
    let others ← ofJsonAll rest
    return f :: others

end

/-- A value that must be there. -/
def required {α : Type} : Option α → Except FilterError α
  | some a => .ok a
  | none => .error .malformed

/-- Nothing but the end of a container may be missing behind its contents. -/
def closing {α : Type} (closed : Bool) (a : α) : Except FilterError α :=
  if closed then .ok a else .error .malformed

/-- What a field must equal, with containers nested at most `depth` deep. -/
def constraintOfSource (depth : Nat) (s : Source) : Except FilterError Constraint :=
  (required (s.value? depth)).map .ofJson

/-- A truth value; the depth does not matter. -/
def flagOfSource (_ : Nat) : Source → Except FilterError Bool
  | .bool b => .ok b
  | _ => .error .malformed

/-- The bounds of a range, with containers nested at most `depth` deep. -/
def boundsOfSource (depth : Nat) : Source → Except FilterError Bounds
  | .arr items closed =>
    match depth with
    | 0 => .error .malformed
    | depth + 1 => do
      let bounds ← required (Source.values? depth items)
      Bounds.ofList (← closing closed bounds)
  | _ => .error .malformed

/-- Reads the value of every entry, in order; a repeated key keeps its last value. -/
def readSourceEntries {α : Type} (read : Source → Except FilterError α) :
    List (Option String × Source) → Entries α → Except FilterError (Entries α)
  | [], found => .ok found
  | (key, s) :: rest, found => do
    let key ← required key
    let a ← read s
    readSourceEntries read rest (found.insert key a)

/-- Reads a leaf, with containers nested at most `depth` deep. -/
def leafOfSource {α : Type} (make : Entries α → Filter)
    (read : Nat → Source → Except FilterError α) (depth : Nat) :
    Source → Except FilterError Filter
  | .obj entries closed =>
    match depth with
    | 0 => .error .malformed
    | depth + 1 => do
      let fields ← readSourceEntries (read depth) entries []
      closing closed (make fields)
  | _ => .error .malformed

mutual

/-- The filter of a value as written, with containers nested at most `depth` deep. -/
def ofSource (depth : Nat) : Source → Except FilterError Filter
  | .obj ((key, content) :: rest) closed =>
    match depth with
    | 0 => .error .malformed
    | depth + 1 => do
      let f ← match key with
        | some "match" => leafOfSource .matching constraintOfSource depth content
        | some "exists" => leafOfSource .presence flagOfSource depth content
        | some "range" => leafOfSource .range boundsOfSource depth content
        | some "and" => childrenOfSource .and depth content
        | some "or" => childrenOfSource .or depth content
        | some "not" => (ofSource depth content).map .not
        | _ => .error .malformed
      closing (closed && rest.isEmpty) f
  | _ => .error .malformed

/-- A list of filters. -/
def childrenOfSource (make : List Filter → Filter) (depth : Nat) :
    Source → Except FilterError Filter
  | .arr items closed =>
    match depth with
    | 0 => .error .malformed
    | depth + 1 => do
      let children ← allOfSource depth items
      closing closed (make children)
  | _ => .error .malformed

def allOfSource (depth : Nat) : List Source → Except FilterError (List Filter)
  | [] => .ok []
  | s :: rest => do
    let f ← ofSource depth s
    let others ← allOfSource depth rest
    return f :: others

end

/-- The filter of a JSON text. -/
def ofText (text : String) : Except FilterError Filter := do
  let (source, ended) := Source.ofText text
  closing ended (← ofSource Source.maxDepth source)

end Filter

end RecordStore
