/-
Schemas in JSON: an object of type names over lists of fields.

A field is an object with the keys `name`, `storage_type`, `is_array` and
`is_denormalized`, of which only the first is needed, or a list of these values in
that order.  Other keys are passed over, a repeated one of the four is a fault.

* `Field.read?` — a field;
* `Schema.load`, `Schema.loadFile` — a schema from a text or a file.
-/
import RecordStore.Json.Load
import RecordStore.Schema.Basic

namespace RecordStore

namespace Field

/-- What an object has said about a field so far. -/
structure Draft where
  name : Option String := none
  storage : Option StorageType := none
  isArray : Option Bool := none
  isDenormalized : Option Bool := none

/-- A storage type by name. -/
def readStorage? (s : Source) : Option StorageType := s.choice?.bind StorageType.ofName?

/-- Takes one entry of the object in. -/
def Draft.read? (d : Draft) (entry : Option String × Source) : Option Draft := do
  let key ← entry.1
  let value := entry.2
  match key with
  | "name" => return { d with name := ← Source.fill? d.name value.text? }
  | "storage_type" => return { d with storage := ← Source.fill? d.storage (readStorage? value) }
  | "is_array" => return { d with isArray := ← Source.fill? d.isArray value.flag? }
  | "is_denormalized" =>
    return { d with isDenormalized := ← Source.fill? d.isDenormalized value.flag? }
  | _ => if value.isWhole then return d else none

/-- The field, if it has a name. -/
def Draft.field? (d : Draft) : Option Field :=
  d.name.map fun name =>
    { name
      storage := d.storage.getD .scalar
      isArray := d.isArray.getD false
      isDenormalized := d.isDenormalized.getD false }

/-- A field, as an object or as a list. -/
def read? : Source → Option Field
  | .obj entries true => do (← entries.foldlM Draft.read? {}).field?
  | .arr [n] true => do return { name := ← n.text? }
  | .arr [n, t] true => do return { name := ← n.text?, storage := ← readStorage? t }
  | .arr [n, t, a] true => do
    return { name := ← n.text?, storage := ← readStorage? t, isArray := ← a.flag? }
  | .arr [n, t, a, d] true => do
    return {
      name := ← n.text?
      storage := ← readStorage? t
      isArray := ← a.flag?
      isDenormalized := ← d.flag? }
  | _ => none

/-- A list of fields. -/
def readList? : Source → Option (List Field)
  | .arr items true => items.mapM read?
  | _ => none

end Field

namespace Schema

/-- A type name and its fields. -/
def readDeclaration? (entry : Option String × Source) : Option (String × List Field) := do
  return (← entry.1, ← Field.readList? entry.2)

/-- The declarations of a schema; the last list of a repeated type counts. -/
def readDeclarations? : Source → Option (Entries (List Field))
  | .obj entries true => (entries.mapM readDeclaration?).map Entries.ofList
  | _ => none

/-- The schema that was loaded, if it was and keeps the rules. -/
def ofLoaded (location : String) :
    Except LoadFault (Entries (List Field)) → Except SchemaError Schema
  | .ok declarations => ofDeclarations declarations
  | .error fault => .error (.malformed location fault.reason)

/-- The schema a text declares. -/
def load (location text : String) : Except SchemaError Schema :=
  ofLoaded location (loadText readDeclarations? text)

/-- The schema a file declares. -/
def loadFile (location : String) (contents : Option ByteArray) : Except SchemaError Schema :=
  ofLoaded location (RecordStore.loadFile readDeclarations? contents)

end Schema

end RecordStore
