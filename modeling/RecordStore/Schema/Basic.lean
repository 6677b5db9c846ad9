/-
Schemas: record types by name.

* `Schema.register` — adds a type, unless its name is taken;
* `Schema.ofDeclarations` — the schema of named lists of fields, checked in the
  order of the names.
-/
import RecordStore.Entries
import RecordStore.Schema.RecordType

namespace RecordStore

/-- Record types under their names. -/
structure Schema where
  types : Entries RecordType := []

namespace Schema

def empty : Schema := {}

/-- The type of a name. -/
def type? (s : Schema) (name : String) : Option RecordType := s.types.get? name

def contains (s : Schema) (name : String) : Bool := s.types.contains name

/-- The names of the types, in order. -/
def typeNames (s : Schema) : List String := s.types.keys

def size (s : Schema) : Nat := s.types.length

/-- Adds a type.  A name can be taken only once. -/
def register (s : Schema) (t : RecordType) : Except SchemaError Schema :=
  if s.contains t.name then .error (.duplicateType t.name)
  else .ok { types := s.types.insert t.name t }

/-- The schema that declares these fields under these names. -/
def ofDeclarations (declarations : Entries (List Field)) : Except SchemaError Schema :=
  declarations.foldlM (fun s d => do s.register (← RecordType.ofFields d.1 d.2)) empty

end Schema

end RecordStore
