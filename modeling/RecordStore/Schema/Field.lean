/-
Fields of record types: a name, how the values are stored, whether there are many,
and whether they are only derived.

* `Field.default` — the value of a field that a document lacks;
* `StorageType.ofName?` — a storage type by name.
-/
import RecordStore.Json.Basic

namespace RecordStore

/-- How the values of a field are stored. -/
inductive StorageType where
  /-- A plain value. -/
  | scalar
  /-- A byte string. -/
  | binary
  /-- The identifier of another record. -/
  | reference
  deriving DecidableEq, Repr

namespace StorageType

def name : StorageType → String
  | .scalar => "scalar"
  | .binary => "binary"
  | .reference => "reference"

def ofName? : String → Option StorageType
  | "scalar" => some .scalar
  | "binary" => some .binary
  | "reference" => some .reference
  | _ => none

end StorageType

/-- A field of a record type. -/
structure Field where
  name : String
  storage : StorageType := .scalar
  /-- The field holds a sequence of values. -/
  isArray : Bool := false
  /-- The field follows from other records and is never written. -/
  isDenormalized : Bool := false
  deriving DecidableEq, Repr

namespace Field

/-- The value of a field that a document lacks: no items, or null. -/
def default (f : Field) : Json := if f.isArray then .arr [] else .null

def isBinary (f : Field) : Bool := f.storage = .binary

end Field

end RecordStore
