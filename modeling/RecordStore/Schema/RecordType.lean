/-
Record types: a name, and fields in the order of their declaration.

No field of a record type has a reserved name, and no two have the same name; the
type keeps that.  `RecordType.ofFields` refuses a list of fields for its first
field that breaks one of the rules.

* `RecordType.firstFault_eq_none_iff` — which lists of fields have no fault;
* `RecordType.field?` — a field by name.
-/
import RecordStore.Identity
import RecordStore.Schema.Field

namespace RecordStore

/-- Why a schema is refused. -/
inductive SchemaError where
  | duplicateField (type field : String)
  | reservedField (type field : String)
  | duplicateType (type : String)
  | malformed (location reason : String)
  deriving DecidableEq, Repr

namespace SchemaError

def message : SchemaError → String
  | .duplicateField type field => s!"Duplicate field '{field}' in type '{type}'"
  | .reservedField type field => s!"Field name '{field}' in type '{type}' is reserved"
  | .duplicateType type => s!"Type '{type}' is already registered"
  | .malformed location reason => s!"Malformed schema at {location}: {reason}"

/-- The stable name of the kind of error. -/
def code : SchemaError → String
  | .duplicateField .. => "DOCBRIDGE_SCHEMA_DUPLICATE_FIELD"
  | .reservedField .. => "DOCBRIDGE_SCHEMA_RESERVED_FIELD"
  | .duplicateType .. => "DOCBRIDGE_SCHEMA_DUPLICATE_TYPE"
  | .malformed .. => "DOCBRIDGE_SCHEMA_MALFORMED"

end SchemaError

/-- The names that identifiers use. -/
def reservedNames : List String := [Record.idKey, Document.idKey]

/-- A record type. -/
structure RecordType where
  name : String
  fields : List Field
  nodup : (fields.map Field.name).Nodup
  unreserved : ∀ f ∈ fields, f.name ∉ reservedNames
  deriving DecidableEq

namespace RecordType

/-- The first fault of a list of fields behind fields with the names `seen`. -/
def firstFault (type : String) (seen : List String) : List Field → Option SchemaError
  | [] => none
  | f :: rest =>
    if f.name ∈ reservedNames then some (.reservedField type f.name)
    else if f.name ∈ seen then some (.duplicateField type f.name)
    else firstFault type (f.name :: seen) rest

theorem firstFault_eq_none_iff (type : String) (seen : List String) (fields : List Field) :
    firstFault type seen fields = none ↔
      (fields.map Field.name).Nodup ∧
        ∀ f ∈ fields, f.name ∉ reservedNames ∧ f.name ∉ seen := by
  induction fields generalizing seen with
  | nil => simp [firstFault]
  | cons f rest ih =>
    simp only [firstFault]
    split
    · simp_all
    · split
      · simp_all
      · rename_i free fresh
        rw [ih]
        simp only [List.map_cons, List.nodup_cons, List.mem_cons, forall_eq_or_imp]
        constructor
        · rintro ⟨distinct, all⟩
          refine ⟨⟨fun inside => ?_, distinct⟩, ⟨free, fresh⟩, fun g hg => ?_⟩
          · obtain ⟨g, hg, same⟩ := List.mem_map.mp inside
            exact (all g hg).2 (Or.inl same)
          · exact ⟨(all g hg).1, fun h => (all g hg).2 (Or.inr h)⟩
        · rintro ⟨⟨outside, distinct⟩, _, all⟩
          refine ⟨distinct, fun g hg => ⟨(all g hg).1, ?_⟩⟩
          rintro (same | h)
          · exact outside (List.mem_map.mpr ⟨g, hg, same⟩)
          · exact (all g hg).2 h

/-- The record type with these fields, unless one of them is at fault. -/
def ofFields (name : String) (fields : List Field) : Except SchemaError RecordType :=
  match h : firstFault name [] fields with
  | some e => .error e
  | none =>
    have sound := (firstFault_eq_none_iff name [] fields).mp h
    .ok { name, fields, nodup := sound.1, unreserved := fun f hf => (sound.2 f hf).1 }

/-- The field of a name. -/
def field? (t : RecordType) (name : String) : Option Field := t.fields.find? (·.name = name)

def contains (t : RecordType) (name : String) : Bool := (t.field? name).isSome

/-- Whether the name is that of an array field. -/
def isArray (t : RecordType) (name : String) : Bool := (t.field? name).any (·.isArray)

end RecordType

end RecordStore
