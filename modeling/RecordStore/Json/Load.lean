/-
Loading a value from a JSON text or from the contents of a file.

The reader of a value sees the whole text as a `Source`; a text that is not one
complete JSON value is refused whatever the reader says.

* `Source.text?`, `Source.flag?`, `Source.choice?`, `Source.fill?` — the parts that
  readers are made of;
* `loadText`, `loadFile` — a value, or why there is none.
-/
import RecordStore.Json.Source

namespace RecordStore

namespace Source

/-- A text. -/
def text? : Source → Option String
  | .str s => s
  | _ => none

/-- A truth value. -/
def flag? : Source → Option Bool
  | .bool b => some b
  | _ => none

/-- A choice among names: the name, or an object with the name over null. -/
def choice? : Source → Option String
  | .str s => s
  | .obj [(key, .null)] true => key
  | _ => none

/-- Fills a place with the value of a key; a place filled before, or a value that
cannot be read, is a fault. -/
def fill? {α : Type} (place value : Option α) : Option (Option α) :=
  if place.isSome || value.isNone then none else some value

end Source

/-- Why a text could not be loaded. -/
inductive LoadFault where
  /-- There is no file, or it holds no text. -/
  | unreadable
  /-- The text is not JSON, or says something else than was wanted. -/
  | notJson

/-- The fault in words; whatever is known beyond that would follow. -/
def LoadFault.reason : LoadFault → String
  | .unreadable => "Failed to read file: "
  | .notJson => "Invalid JSON: "

variable {α : Type}

/-- Reads a value from a JSON text. -/
def loadText (read? : Source → Option α) (text : String) : Except LoadFault α :=
  match Source.ofText text with
  | (source, true) =>
    match read? source with
    | some a => .ok a
    | none => .error .notJson
  | (_, false) => .error .notJson

/-- Reads a value from the contents of a file, if there is one. -/
def loadFile (read? : Source → Option α) (contents : Option ByteArray) : Except LoadFault α :=
  match contents.bind String.fromUTF8? with
  | some text => loadText read? text
  | none => .error .unreadable

end RecordStore
