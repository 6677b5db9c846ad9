/-
The document of a record, key by key.

A document is put together in three layers: the identifier, the fields that the
record brings, and the defaults of those that it lacks.  No layer writes into
another one, because names of identifiers are no field names and a default is only
written where the record brings nothing.

* `Record.get?_toDocument_idKey` — the identifier is the one that was assigned;
* `Record.get?_toDocument_field` — a field holds what the record brings, or its default;
* `Record.getElem?_encodeAll` — the documents of many records;
* `Record.assignId_ne_empty` — no record is given the empty identifier.
-/
import RecordStore.Proofs.Entries
import RecordStore.Proofs.Schema.RecordType
import RecordStore.Record.Codec

namespace RecordStore

/-! ### Values of fields -/

/-- Pairs of the names of some fields with values, as entries that are looked up. -/
def Field.pairs (value : Field → Json) (fs : List Field) : List (String × Json) :=
  fs.map fun f => (f.name, value f)

theorem Field.keys_pairs (value : Field → Json) (fs : List Field) :
    Entries.keys (Field.pairs value fs) = fs.map Field.name := by
  rw [Entries.keys, Field.pairs, List.map_map]
  rfl

/-- The value of a field among pairs of a part of the fields of a type, in either
direction of reading. -/
theorem Field.get?_pairs (t : RecordType) (value : Field → Json) {fs : List Field}
    (hsub : fs.Sublist t.fields) {f : Field} (hf : f ∈ fs) :
    Entries.get? (Field.pairs value fs).reverse f.name = some (value f) := by
  have hnodup : (Entries.keys (Field.pairs value fs)).Nodup := by
    rw [Field.keys_pairs]
    exact (hsub.map Field.name).nodup t.nodup
  rw [Entries.get?_reverse hnodup]
  exact Entries.get?_of_mem hnodup (List.mem_map_of_mem hf)

theorem Field.get?_pairs_eq_none (value : Field → Json) {fs : List Field} {name : String}
    (h : ∀ f ∈ fs, f.name ≠ name) :
    Entries.get? (Field.pairs value fs).reverse name = none := by
  rw [Entries.get?_reverse_eq_none_iff, ← Bool.not_eq_true, Entries.contains_iff_mem_keys,
    Field.keys_pairs]
  intro hmem
  obtain ⟨f, hf, hname⟩ := List.mem_map.mp hmem
  exact h f hf hname

namespace Record

/-! ### The three layers of a document -/

theorem get?_storedFields_reverse (r : Record) (name : String) :
    Entries.get? r.storedFields.reverse name =
      if name ≠ idKey ∧ name ≠ Document.idKey then Entries.get? r.fields.reverse name
      else none := by
  have hkeep := Entries.get?_filter r.fields.reverse
    (fun key => decide (key ≠ idKey ∧ key ≠ Document.idKey)) name
  simp only [decide_eq_true_eq] at hkeep
  rw [storedFields, ← List.filter_reverse]
  exact hkeep

theorem get?_toDocument (t : RecordType) (r : Record) (id name : String) :
    (toDocument t r id).get? name =
      (Entries.get? (missingFields t r).reverse name).or
        ((Entries.get? r.storedFields.reverse name).or
          (Entries.get? [(Document.idKey, .str id)] name)) := by
  rw [toDocument, Entries.get?_insertAll, Entries.get?_insertAll]
  rfl

/-- The names of the fields that a record lacks are names of fields. -/
theorem missingFields_eq_pairs (t : RecordType) (r : Record) :
    missingFields t r =
      Field.pairs Field.default (t.fields.filter fun f => !r.fields.contains f.name) := rfl

/-- A field that the record brings is none of those that it lacks. -/
theorem get?_missingFields_eq_none (t : RecordType) {r : Record} {name : String}
    (h : name ∈ r.fields.keys) : Entries.get? (missingFields t r).reverse name = none := by
  rw [missingFields_eq_pairs]
  refine Field.get?_pairs_eq_none _ fun f hf hname => ?_
  have hmissing := (List.mem_filter.mp hf).2
  rw [hname, Entries.contains_iff_mem_keys.mpr h] at hmissing
  exact absurd hmissing Bool.false_ne_true

theorem get?_toDocument_idKey (t : RecordType) (r : Record) (id : String) :
    (toDocument t r id).get? Document.idKey = some (.str id) := by
  rw [get?_toDocument, get?_storedFields_reverse, if_neg (by simp), missingFields_eq_pairs,
    Field.get?_pairs_eq_none, Option.none_or, Option.none_or, Entries.get?_cons, if_pos rfl]
  intro f hf
  exact t.name_ne_documentIdKey (List.mem_filter.mp hf).1

/-- A field holds what the record brings, the last value if there are several, or
else its default. -/
theorem get?_toDocument_field (t : RecordType) (r : Record) (id : String) {f : Field}
    (hf : f ∈ t.fields) :
    (toDocument t r id).get? f.name =
      some ((Entries.get? r.fields.reverse f.name).getD f.default) := by
  rw [get?_toDocument, get?_storedFields_reverse,
    if_pos ⟨t.name_ne_idKey hf, t.name_ne_documentIdKey hf⟩]
  cases hsupplied : Entries.get? r.fields.reverse f.name with
  | some v =>
    have hcontains : r.fields.contains f.name = true := by
      rw [← Bool.not_eq_false, ← Entries.get?_reverse_eq_none_iff, hsupplied]
      exact Option.some_ne_none v
    rw [get?_missingFields_eq_none t (Entries.contains_iff_mem_keys.mp hcontains)]
    rfl
  | none =>
    have hcontains : r.fields.contains f.name = false :=
      Entries.get?_reverse_eq_none_iff.mp hsupplied
    rw [missingFields_eq_pairs, Field.get?_pairs t Field.default List.filter_sublist
      (List.mem_filter.mpr ⟨hf, by rw [hcontains]; rfl⟩)]
    rfl

/-! ### Many records -/

/-- Many records have one document each, in their order: that of the record by itself, with
the supply that the records before it have left. -/
theorem getElem?_encodeAll (t : RecordType) (records : List Record) (ids : IdSupply) (i : Nat) :
    (encodeAll t records ids).1[i]? =
      records[i]?.map fun r => (encode t r (encodeAll t (records.take i) ids).2).1 := by
  induction records generalizing ids i with
  | nil => rfl
  | cons r rest ih =>
    cases i with
    | zero => rfl
    | succ i => exact ih (encode t r ids).2 i

/-- All documents of records have texts as identifiers. -/
theorem exists_idKey_of_mem_encodeAll {t : RecordType} {records : List Record} {ids : IdSupply}
    {d : Document} (h : d ∈ (encodeAll t records ids).1) :
    ∃ id, d.get? Document.idKey = some (.str id) := by
  obtain ⟨i, hi⟩ := List.mem_iff_getElem?.mp h
  rw [getElem?_encodeAll] at hi
  obtain ⟨r, -, rfl⟩ := Option.map_eq_some_iff.mp hi
  exact ⟨_, get?_toDocument_idKey t r _⟩

theorem length_encodeAll (t : RecordType) (records : List Record) (ids : IdSupply) :
    (encodeAll t records ids).1.length = records.length := by
  induction records generalizing ids with
  | nil => rfl
  | cons r rest ih =>
    rw [encodeAll]
    dsimp only
    rw [List.length_cons, List.length_cons, ih]

/-! ### Identifiers -/

theorem nonempty_eq_none_iff {s : String} : nonempty s = none ↔ s = "" := by
  simp [nonempty]

theorem nonempty_eq_some_iff {s id : String} : nonempty s = some id ↔ s = id ∧ id ≠ "" := by
  rw [nonempty]
  split
  · rename_i hempty
    refine iff_of_false (by simp) ?_
    rintro ⟨rfl, hne⟩
    exact hne hempty
  · rename_i hne
    rw [Option.some_inj]
    exact ⟨fun h => ⟨h, h ▸ hne⟩, And.left⟩

/-- What one place brings: the text found there, unless it is empty. -/
theorem bind_nonempty_eq_some_iff {found : Option String} {id : String} :
    found.bind nonempty = some id ↔ found = some id ∧ id ≠ "" := by
  rw [Option.bind_eq_some_iff]
  constructor
  · rintro ⟨s, hfound, hs⟩
    obtain ⟨rfl, hne⟩ := nonempty_eq_some_iff.mp hs
    exact ⟨hfound, hne⟩
  · rintro ⟨hfound, hne⟩
    exact ⟨id, hfound, nonempty_eq_some_iff.mpr ⟨rfl, hne⟩⟩

theorem suppliedId?_ne_empty {r : Record} {id : String} (h : r.suppliedId? = some id) :
    id ≠ "" := by
  rw [suppliedId?, Option.or_eq_some_iff] at h
  rcases h with h | ⟨-, h⟩
  · exact (bind_nonempty_eq_some_iff.mp h).2
  · exact (bind_nonempty_eq_some_iff.mp h).2

/-- No record is given the empty identifier, unless one is made up. -/
theorem assignId_ne_empty (t : RecordType) (r : Record) (ids : IdSupply)
    (h : ∀ n type, ids.generate n type ≠ "") : (assignId t r ids).1 ≠ "" := by
  rw [assignId]
  cases hid : r.suppliedId? with
  | some id => exact suppliedId?_ne_empty hid
  | none => exact h _ _

/-- A record that carries an identifier keeps it and asks for none. -/
theorem assignId_of_id (t : RecordType) {r : Record} {id : String} (hid : r.id = some id)
    (hne : id ≠ "") (ids : IdSupply) : assignId t r ids = (id, ids) := by
  have hsupplied : r.suppliedId? = some id := by
    rw [suppliedId?, hid, Option.bind_some, nonempty, if_neg hne, Option.some_or]
  rw [assignId, hsupplied]

end Record

end RecordStore
