/-
The document of a record, as a whole.

A document has the identifier, the fields that the record brings and all fields of the type.
What the record brings is kept as it is, but for what it has under the names of identifiers;
what it does not bring has its default.  The identifier is the record's own, or else the text
of its field `id`, and only if there is neither is one made up.  Derived fields have no say.

* `Record.Identified` — the identifier that a record is stored under;
* `Record.mem_keys_toDocument`, `Record.get?_toDocument_supplied` — the keys of a document and
  the values that a record brings;
* `Record.encode_completes` — the document of a record and the identifiers asked for.
-/
import RecordStore.Proofs.Record.Denormalized

namespace RecordStore.Record

/-! ### Keys and values -/

section Document

variable (t : RecordType) (r : Record) (id : String) {name : String}

theorem notMem_reservedNames {name : String} :
    name ∉ reservedNames ↔ name ≠ idKey ∧ name ≠ Document.idKey := by
  simp [reservedNames]

theorem mem_keys_storedFields :
    name ∈ Entries.keys r.storedFields ↔ name ∈ r.fields.keys ∧ name ∉ reservedNames := by
  rw [notMem_reservedNames, Entries.keys, storedFields, List.mem_map]
  constructor
  · rintro ⟨p, hp, rfl⟩
    obtain ⟨hmem, hkeep⟩ := List.mem_filter.mp hp
    exact ⟨List.mem_map_of_mem hmem, of_decide_eq_true hkeep⟩
  · rintro ⟨hmem, hname⟩
    obtain ⟨p, hp, rfl⟩ := List.mem_map.mp hmem
    exact ⟨p, List.mem_filter.mpr ⟨hp, decide_eq_true hname⟩, rfl⟩

theorem mem_keys_missingFields :
    name ∈ Entries.keys (missingFields t r) ↔
      ∃ f ∈ t.fields, f.name = name ∧ name ∉ r.fields.keys := by
  rw [missingFields_eq_pairs, Field.keys_pairs, List.mem_map]
  simp only [List.mem_filter, Bool.not_eq_true', ← Bool.not_eq_true, Entries.contains_iff_mem_keys]
  constructor
  · rintro ⟨f, ⟨hf, hmissing⟩, rfl⟩
    exact ⟨f, hf, rfl, hmissing⟩
  · rintro ⟨f, hf, rfl, hmissing⟩
    exact ⟨f, ⟨hf, hmissing⟩, rfl⟩

/-- The keys of a document: those of the record, but for the names of identifiers, and the
names of all fields of the type. -/
theorem mem_keys_toDocument :
    name ∈ (toDocument t r id).keys ↔ name = Document.idKey ∨
      (name ∈ r.fields.keys ∧ name ∉ reservedNames) ∨ ∃ f ∈ t.fields, f.name = name := by
  have hid : name ∈ Entries.keys (Entries.ofList [(Document.idKey, Json.str id)]) ↔
      name = Document.idKey := List.mem_singleton
  rw [toDocument, Entries.mem_keys_insertAll, Entries.mem_keys_insertAll, mem_keys_storedFields,
    mem_keys_missingFields, hid]
  constructor
  · rintro (⟨f, hf, hname, -⟩ | hstored | hname)
    · exact .inr (.inr ⟨f, hf, hname⟩)
    · exact .inr (.inl hstored)
    · exact .inl hname
  · rintro (hname | hstored | ⟨f, hf, rfl⟩)
    · exact .inr (.inr hname)
    · exact .inr (.inl hstored)
    -- A field of the type is either brought by the record or missing from it.
    · by_cases hsupplied : f.name ∈ r.fields.keys
      · exact .inr (.inl ⟨hsupplied, t.unreserved f hf⟩)
      · exact .inl ⟨f, hf, rfl, hsupplied⟩

/-- What a record brings is kept as it is, but for what it has under the names of
identifiers. -/
theorem get?_toDocument_supplied (hr : r.fields.Sorted) {v : Json}
    (hname : name ∉ reservedNames) (hv : r.fields.get? name = some v) :
    (toDocument t r id).get? name = some v := by
  have hsupplied : name ∈ r.fields.keys := List.mem_map_of_mem (Entries.mem_of_get? hv)
  rw [get?_toDocument, get?_missingFields_eq_none t hsupplied, Option.none_or,
    get?_storedFields_reverse, if_pos (notMem_reservedNames.mp hname),
    Entries.get?_reverse hr.nodup_keys, hv, Option.some_or]

end Document

/-! ### The identifier -/

/-- The identifier of a record and the supply that is left: its own one unless it is empty, or
else the text of its field `id` unless that is null or empty, or else one that is made up. -/
inductive Identified (t : RecordType) (r : Record) (ids : IdSupply) : String → IdSupply → Prop
  | own {id : String} (hid : r.id = some id) (hne : id ≠ "") : Identified t r ids id ids
  | field {v : Json} {text : String} (hid : r.id = none ∨ r.id = some "")
      (hv : r.fields.get? idKey = some v) (htext : v.idText? = some text) (hne : text ≠ "") :
      Identified t r ids text ids
  | made (hid : r.id = none ∨ r.id = some "")
      (hfield : ∀ v text, r.fields.get? idKey = some v → v.idText? = some text → text = "") :
      Identified t r ids (ids.generate ids.used t.name) { ids with used := ids.used + 1 }

theorem identified_assignId (t : RecordType) (r : Record) (ids : IdSupply) :
    Identified t r ids (assignId t r ids).1 (assignId t r ids).2 := by
  rw [assignId, suppliedId?]
  cases hown : r.id.bind nonempty with
  | some id =>
    obtain ⟨hid, hne⟩ := bind_nonempty_eq_some_iff.mp hown
    exact .own hid hne
  | none =>
    have hid : r.id = none ∨ r.id = some "" := by
      cases hid : r.id with
      | none => exact .inl rfl
      | some s =>
        rw [hid, Option.bind_some, nonempty_eq_none_iff] at hown
        exact .inr (congrArg some hown)
    cases hfield : ((r.fields.get? idKey).bind Json.idText?).bind nonempty with
    | some text =>
      obtain ⟨hfound, hne⟩ := bind_nonempty_eq_some_iff.mp hfield
      obtain ⟨v, hv, htext⟩ := Option.bind_eq_some_iff.mp hfound
      exact .field hid hv htext hne
    | none =>
      refine .made hid fun v text hv htext => ?_
      rw [hv, Option.bind_some, htext, Option.bind_some, nonempty_eq_none_iff] at hfield
      exact hfield

/-- The document of a record has the keys of the record, but for the names of identifiers, and
all fields of the type.  What the record brings into fields that are not denormalized is kept
as it is, and fields that it lacks hold their defaults.  The document is stored under the
identifier of the record, which is made up only if there is none, and derived fields have no
say in it. -/
theorem encode_completes (t : RecordType) (r : Record) (hr : r.fields.Sorted) (ids : IdSupply) :
    (encode t r ids).1.Sorted ∧
    (∀ name, name ∈ (encode t r ids).1.keys ↔ name = Document.idKey ∨
      (name ∈ r.fields.keys ∧ name ∉ reservedNames) ∨ ∃ f ∈ t.fields, f.name = name) ∧
    (∀ name v, r.fields.get? name = some v → name ∉ reservedNames →
      (∀ f ∈ t.fields, f.name = name → f.isDenormalized = false) →
      (encode t r ids).1.get? name = some v) ∧
    (∀ f ∈ t.fields, f.name ∉ r.fields.keys →
      (encode t r ids).1.get? f.name = some f.default) ∧
    (∃ id, (encode t r ids).1.get? Document.idKey = some (.str id) ∧
      Identified t r ids id (encode t r ids).2) ∧
    ∀ r' : Record, r'.id = r.id → r'.fields = r.fields → encode t r' ids = encode t r ids := by
  refine ⟨?_, fun name => mem_keys_toDocument t r _, ?_, ?_, ?_, ?_⟩
  · exact ((Entries.sorted_ofList _).insertAll _).insertAll _
  · intro name v hv hname _
    exact get?_toDocument_supplied t r _ hr hname hv
  · intro f hf hmissing
    rw [get?_encode t hr ids hf, Entries.get?_eq_none_iff.mpr hmissing, Option.getD_none]
  · exact ⟨_, get?_toDocument_idKey t r _, identified_assignId t r ids⟩
  · rintro ⟨id, fields, derived⟩ rfl rfl
    rfl

/-- A record with an empty identifier and an empty field `id`, a value under the name of a
document's identifier, a field that the type does not have, and a derived field; and the same
with a number in the field `id`, whose text is then the identifier. -/
theorem encode_completes_user :
    let user : RecordType :=
      { name := "user"
        fields := [{ name := "name" }, { name := "tags", isArray := true },
          { name := "createdBy", isDenormalized := true }]
        nodup := by decide, unreserved := by decide }
    let r : Record :=
      { id := some ""
        fields := [("_id", .str "u1"), ("extra", .bool true), ("id", .str ""), ("name", .str "Ada")]
        derived := [("createdBy", .str "p1")] }
    let r' : Record := { r with fields := [("id", .ofNat 7), ("name", .str "Ada")] }
    let ids : IdSupply := { generate := fun _ type => "new-" ++ type }
    r.fields.Sorted ∧
      (∀ name, name ∈ (encode user r ids).1.keys ↔ name = Document.idKey ∨
        (name ∈ r.fields.keys ∧ name ∉ reservedNames) ∨ ∃ f ∈ user.fields, f.name = name) ∧
      (encode user r ids).1.get? "extra" = some (.bool true) ∧
      (encode user r ids).1.get? "createdBy" = some .null ∧
      (∃ id, (encode user r ids).1.get? Document.idKey = some (.str id) ∧
        Identified user r ids id (encode user r ids).2) ∧
      r'.fields.Sorted ∧ (encode user r' ids).1.get? Document.idKey = some (.str "7") ∧
      Identified user r' ids "7" ids := by
  intro user r r' ids
  have hr : r.fields.Sorted := Entries.sorted_ofList r.fields
  obtain ⟨-, hkeys, hsupplied, hmissing, hid, -⟩ := encode_completes user r hr ids
  have hr' : r'.fields.Sorted := Entries.sorted_ofList r'.fields
  obtain ⟨-, -, -, -, ⟨id, hget, hidentified⟩, -⟩ := encode_completes user r' hr' ids
  have hseven : (encode user r' ids).1.get? Document.idKey = some (.str "7") := rfl
  obtain rfl : id = "7" := Json.str.inj (Option.some_inj.mp (hget.symm.trans hseven))
  refine ⟨hr, hkeys, hsupplied "extra" _ rfl (by decide) (by decide), ?_, hid, hr', hseven,
    hidentified⟩
  exact hmissing { name := "createdBy", isDenormalized := true } (by decide) (by decide)

end RecordStore.Record
