/-
Records as documents.

Encoding makes a document that has every field of the record type: the record's own
fields as they are, and the default for each field it lacks.  Decoding keeps the
fields of the record type only, byte strings in their plain form, and sets the
denormalized ones apart.

* `Record.encode` — the document of a record;
* `Record.decode` — the record of a document;
* `Record.encodeAll`, `Record.decodeAll` — many, in order.
-/
import RecordStore.Record.Basic
import RecordStore.Record.Bytes
import RecordStore.Record.Ids
import RecordStore.Schema.RecordType

namespace RecordStore

/-- A field of bytes holds something else. -/
structure InvalidBinary where
  field : String
  found : String
  deriving DecidableEq, Repr

namespace InvalidBinary

def message (e : InvalidBinary) : String :=
  s!"Could not decode binary field '{e.field}': found {e.found}"

/-- The stable name of the kind of error. -/
def code : String := "DOCBRIDGE_INVALID_BINARY"

end InvalidBinary

namespace Record

/-- A text that is not empty. -/
def nonempty (s : String) : Option String := if s = "" then none else some s

/-- The identifier that a record brings: its own, or else its field `id`; the empty
text is none. -/
def suppliedId? (r : Record) : Option String :=
  (r.id.bind nonempty).or (((r.fields.get? idKey).bind Json.idText?).bind nonempty)

/-- The identifier of a record, made up if it brings none. -/
def assignId (t : RecordType) (r : Record) (ids : IdSupply) : String × IdSupply :=
  match r.suppliedId? with
  | some id => (id, ids)
  | none => ids.next t.name

/-- The fields that a document takes over: all but those named like identifiers. -/
def storedFields (r : Record) : Document :=
  r.fields.filter fun p => p.1 ≠ idKey ∧ p.1 ≠ Document.idKey

/-- The defaults of the fields that a record lacks. -/
def missingFields (t : RecordType) (r : Record) : List (String × Json) :=
  (t.fields.filter fun f => !r.fields.contains f.name).map fun f => (f.name, f.default)

/-- The document with this identifier for a record. -/
def toDocument (t : RecordType) (r : Record) (id : String) : Document :=
  ((Entries.ofList [(Document.idKey, .str id)]).insertAll r.storedFields).insertAll
    (missingFields t r)

/-- The document of a record. -/
def encode (t : RecordType) (r : Record) (ids : IdSupply) : Document × IdSupply :=
  let (id, ids) := assignId t r ids
  (toDocument t r id, ids)

/-- The documents of records, which ask for identifiers in their order. -/
def encodeAll (t : RecordType) : List Record → IdSupply → List Document × IdSupply
  | [], ids => ([], ids)
  | r :: rest, ids =>
    let (d, ids) := encode t r ids
    let (ds, ids) := encodeAll t rest ids
    (d :: ds, ids)

/-- The plain form of one byte string in a field. -/
def decodeBytes (field : String) (v : Json) : Except InvalidBinary Json :=
  match v.normalizeBytes? with
  | some bytes => .ok bytes
  | none => .error { field, found := v.shape }

/-- The value of a field of bytes: one byte string, or a list of them. -/
def decodeBinary (f : Field) (v : Json) : Except InvalidBinary Json :=
  if f.isArray then
    match v with
    | .null => .ok .null
    | .arr items => (items.mapM (decodeBytes f.name)).map .arr
    | _ => .error { field := f.name, found := "non-array value for array field" }
  else decodeBytes f.name v

/-- The value of a field in a document. -/
def decodeField (d : Document) (f : Field) : Except InvalidBinary Json :=
  match d.get? f.name with
  | some v => if f.isBinary then decodeBinary f v else .ok v
  | none => .ok f.default

/-- Puts a field where it belongs: among the derived ones if it is denormalized. -/
def place (r : Record) (f : Field) (v : Json) : Record :=
  if f.isDenormalized then { r with derived := r.derived.insert f.name v }
  else { r with fields := r.fields.insert f.name v }

/-- The record of a document. -/
def decode (t : RecordType) (d : Document) : Except InvalidBinary Record :=
  t.fields.foldlM (fun r f => do return place r f (← decodeField d f))
    { id := (d.get? Document.idKey).bind Json.idText? }

/-- The records of documents; the first document that has none decides. -/
def decodeAll (t : RecordType) (ds : List Document) : Except InvalidBinary (List Record) :=
  ds.mapM (decode t)

end Record

end RecordStore
