/-
Records: an identifier, the fields that a caller may write, and derived fields.

Derived fields can be read like the others but are no part of what is written.

* `Record.get?`, `Record.insert` — reading and writing a field;
* `Record.toJson` — the identifier and the writable fields as one object;
* `Record.ofObject` — a plain object split into identifier and fields.
-/
import RecordStore.Identity

namespace RecordStore

/-- A record. -/
structure Record where
  /-- The identifier, once there is one. -/
  id : Option String := none
  /-- The fields that may be written. -/
  fields : Document := []
  /-- The fields that can only be read. -/
  derived : Document := []

namespace Record

/-- A field, writable or derived. -/
def get? (r : Record) (field : String) : Option Json :=
  (r.fields.get? field).or (r.derived.get? field)

/-- Writes a field; with the record, the value that stood there. -/
def insert (r : Record) (field : String) (value : Json) : Record × Option Json :=
  ({ r with fields := r.fields.insert field value }, r.fields.get? field)

/-- The identifier and the writable fields; a field named `id` wins. -/
def toJson (r : Record) : Json :=
  let start : Document := r.id.toList.map fun id => (idKey, .str id)
  .obj (start.insertAll r.fields)

/-- The record of a plain object, which carries its identifier under `id`. -/
def ofObject (object : Document) : Record :=
  { id := (object.get? idKey).bind Json.idText?, fields := object.erase idKey }

end Record

end RecordStore
