/-
The record that a document shows.

Decoding looks at the fields of the type in their order and stops at the first field of bytes
that holds something else.  If none does, the record has the fields of the type and no other
key of the document: each with its value as it is read, or with its default if the document
has none, the denormalized ones apart.

* `Field.Accepts`, `Field.Reads`, `Field.Refuses` — which values a field of bytes may hold, as
  what they are read, and what is said of all others;
* `Record.Shows` — the record of a document, told from its keys and values;
* `Record.decode_shape` — when decoding fails and with what, and what it gives if not.
-/
import RecordStore.Proofs.Record.Decoding

namespace RecordStore

/-! ### Values of fields -/

/-- Null is read as itself, a form of a byte string as the list of its bytes. -/
inductive Json.ReadsAs : Json → Json → Prop
  | null : ReadsAs .null .null
  | form {v : Json} {bytes : List UInt8} (hform : v.IsFormOf bytes) : ReadsAs v (.ofBytes bytes)

namespace Field

/-- What a field of bytes may hold: a byte string or null, or if it is an array field, a list
of these or null. -/
def Accepts (f : Field) (v : Json) : Prop :=
  if f.isArray then v = .null ∨ ∃ items, v = .arr items ∧ ∀ item ∈ items, item.IsBinary
  else v.IsBinary

/-- As what the value of a field is read. -/
inductive Reads (f : Field) : Json → Json → Prop
  | plain (hplain : f.isBinary = false) (v : Json) : Reads f v v
  | single (hbinary : f.isBinary = true) (hsingle : f.isArray = false) {v w : Json}
      (hread : v.ReadsAs w) : Reads f v w
  | null (hbinary : f.isBinary = true) (harray : f.isArray = true) : Reads f .null .null
  | list (hbinary : f.isBinary = true) (harray : f.isArray = true) {items read : List Json}
      (hread : List.Forall₂ Json.ReadsAs items read) : Reads f (.arr items) (.arr read)

/-- What is said of a value that a field of bytes may not hold: its shape, in an array that of
the first item that is no byte string. -/
inductive Refuses (f : Field) : Json → String → Prop
  | single (hsingle : f.isArray = false) {v : Json} (hv : ¬v.IsBinary) : Refuses f v v.shape
  | noArray (harray : f.isArray = true) {v : Json} (hnull : v ≠ .null)
      (hitems : ∀ items, v ≠ .arr items) : Refuses f v "non-array value for array field"
  | item (harray : f.isArray = true) {before after : List Json} {v : Json}
      (hbefore : ∀ u ∈ before, u.IsBinary) (hv : ¬v.IsBinary) :
      Refuses f (.arr (before ++ v :: after)) v.shape

/-- The value of a field that a document shows. -/
def Shows (f : Field) (d : Document) (w : Json) : Prop :=
  (d.get? f.name = none ∧ w = f.default) ∨ ∃ v, d.get? f.name = some v ∧ f.Reads v w

end Field

namespace Record

theorem decodeBytes_eq_ok_iff_readsAs {field : String} {v w : Json} :
    decodeBytes field v = .ok w ↔ v.ReadsAs w := by
  rw [decodeBytes_eq_ok_iff, Json.normalizeBytes?_eq_some_iff]
  constructor
  · rintro (⟨rfl, rfl⟩ | ⟨bytes, hform, rfl⟩)
    · exact .null
    · exact .form hform
  · rintro (_ | hform)
    · exact .inl ⟨rfl, rfl⟩
    · exact .inr ⟨_, hform, rfl⟩

section Value

variable {f : Field} {v w : Json}

theorem decodeBinary_eq_ok_iff (hbinary : f.isBinary = true) :
    decodeBinary f v = .ok w ↔ f.Reads v w := by
  constructor
  · intro h
    cases harray : f.isArray with
    | false =>
      rw [decodeBinary_of_not_array harray, decodeBytes_eq_ok_iff_readsAs] at h
      exact .single hbinary harray h
    | true =>
      cases v with
      | null =>
        rw [decodeBinary_null harray] at h
        obtain rfl := Except.ok.inj h
        exact .null hbinary harray
      | arr items =>
        rw [decodeBinary_arr harray, Except.map_eq_ok_iff] at h
        obtain ⟨read, hread, rfl⟩ := h
        simp only [Except.mapM_eq_ok_iff, decodeBytes_eq_ok_iff_readsAs] at hread
        exact .list hbinary harray hread
      | _ => exact absurd h (by simp [decodeBinary, harray])
  · intro h
    cases h with
    | plain hplain => exact absurd (hplain.symm.trans hbinary) Bool.false_ne_true
    | single _ hsingle hread =>
      rw [decodeBinary_of_not_array hsingle, decodeBytes_eq_ok_iff_readsAs]
      exact hread
    | null _ harray => exact decodeBinary_null harray
    | list _ harray hread =>
      rw [decodeBinary_arr harray, Except.map_eq_ok_iff]
      refine ⟨_, ?_, rfl⟩
      simp only [Except.mapM_eq_ok_iff, decodeBytes_eq_ok_iff_readsAs]
      exact hread

theorem decodeBinary_eq_error_iff {e : InvalidBinary} :
    decodeBinary f v = .error e ↔ ∃ found, f.Refuses v found ∧ e = { field := f.name, found } := by
  constructor
  · intro h
    cases harray : f.isArray with
    | false =>
      rw [decodeBinary_of_not_array harray, decodeBytes_eq_error_iff] at h
      exact ⟨_, .single harray h.1, h.2⟩
    | true =>
      cases v with
      | null => exact absurd h (by simp [decodeBinary_null harray])
      | arr items =>
        rw [decodeBinary_arr harray, Except.map_eq_error_iff, Except.mapM_eq_error_iff] at h
        obtain ⟨before, item, after, rfl, hbefore, hitem⟩ := h
        simp only [exists_decodeBytes_iff_isBinary] at hbefore
        rw [decodeBytes_eq_error_iff] at hitem
        exact ⟨_, .item harray hbefore hitem.1, hitem.2⟩
      | _ =>
        refine ⟨_, .noArray harray (by simp) (by simp), ?_⟩
        simp only [decodeBinary, harray, if_true] at h
        exact (Except.error.inj h).symm
  · rintro ⟨found, hrefuses, rfl⟩
    cases hrefuses with
    | single hsingle hv =>
      rw [decodeBinary_of_not_array hsingle, decodeBytes_eq_error_iff]
      exact ⟨hv, rfl⟩
    | noArray harray hnull hitems =>
      cases v with
      | null => exact absurd rfl hnull
      | arr items => exact absurd rfl (hitems items)
      | _ => simp only [decodeBinary, harray, if_true]
    | item harray hbefore hv =>
      rw [decodeBinary_arr harray, Except.map_eq_error_iff, Except.mapM_eq_error_iff]
      simp only [exists_decodeBytes_iff_isBinary]
      exact ⟨_, _, _, rfl, hbefore, decodeBytes_eq_error_iff.mpr ⟨hv, rfl⟩⟩

theorem exists_decodeBinary_iff : (∃ w, decodeBinary f v = .ok w) ↔ f.Accepts v := by
  rw [Field.Accepts]
  cases harray : f.isArray with
  | false =>
    rw [if_neg Bool.false_ne_true, decodeBinary_of_not_array harray]
    exact exists_decodeBytes_iff_isBinary f.name
  | true =>
    rw [if_pos rfl]
    cases v with
    | null => exact iff_of_true ⟨_, decodeBinary_null harray⟩ (.inl rfl)
    | arr items =>
      simp only [decodeBinary_arr harray, Except.map_eq_ok_iff, reduceCtorEq, false_or,
        Json.arr.injEq, exists_eq_left', ← exists_decodeBytes_iff_isBinary f.name,
        ← Except.exists_mapM_iff]
      exact ⟨fun ⟨_, read, hread, _⟩ => ⟨read, hread⟩, fun ⟨read, hread⟩ => ⟨_, read, hread, rfl⟩⟩
    | _ => exact iff_of_false (by simp [decodeBinary, harray]) (by simp)

theorem reads_of_plain (hplain : f.isBinary = false) : f.Reads v w ↔ w = v := by
  constructor
  · intro h
    cases h with
    | plain _ _ => rfl
    | single hbinary _ _ | null hbinary _ | list hbinary _ _ =>
      exact absurd (hplain.symm.trans hbinary) Bool.false_ne_true
  · rintro rfl
    exact .plain hplain w

variable {d : Document}

theorem decodeField_eq_ok_iff : decodeField d f = .ok w ↔ f.Shows d w := by
  rw [Field.Shows]
  cases hd : d.get? f.name with
  | none => simp [decodeField_of_missing hd, eq_comm]
  | some v =>
    simp only [decodeField_of_get? hd, reduceCtorEq, false_and, false_or, Option.some.injEq,
      exists_eq_left']
    cases hbinary : f.isBinary with
    | false => rw [if_neg Bool.false_ne_true, reads_of_plain hbinary, Except.ok.injEq, eq_comm]
    | true => rw [if_pos rfl, decodeBinary_eq_ok_iff hbinary]

/-- A field stops the decoding if it is one of bytes and holds a value that it may not hold. -/
theorem decodeField_eq_error_iff {e : InvalidBinary} :
    decodeField d f = .error e ↔ f.isBinary = true ∧ ∃ v found,
      d.get? f.name = some v ∧ f.Refuses v found ∧ e = { field := f.name, found } := by
  cases hd : d.get? f.name with
  | none => simp [decodeField_of_missing hd]
  | some v =>
    rw [decodeField_of_get? hd]
    cases hbinary : f.isBinary with
    | false => simp
    | true => simp [decodeBinary_eq_error_iff]

theorem exists_decodeField_iff :
    (∃ w, decodeField d f = .ok w) ↔
      (f.isBinary = true → ∀ v, d.get? f.name = some v → f.Accepts v) := by
  cases hd : d.get? f.name with
  | none => simp [decodeField_of_missing hd]
  | some v =>
    simp only [decodeField_of_get? hd, Option.some.injEq]
    cases hbinary : f.isBinary with
    | false => simp
    | true => simp [exists_decodeBinary_iff]

end Value

/-! ### Records -/

/-- Entries under the names of some fields, with the values that a document shows for them. -/
structure ShowsFields (d : Document) (fs : List Field) (entries : Document) : Prop where
  sorted : entries.Sorted
  mem_keys_iff : ∀ name, name ∈ entries.keys ↔ ∃ f ∈ fs, f.name = name
  value : ∀ f ∈ fs, ∃ w, entries.get? f.name = some w ∧ f.Shows d w

/-- The record that a document shows: the identifier as a text, unless it is missing or null,
and the fields of the type, the denormalized ones apart. -/
structure Shows (t : RecordType) (d : Document) (r : Record) : Prop where
  id : r.id = (d.get? Document.idKey).bind Json.idText?
  fields : ShowsFields d (t.fields.filter fun f => !f.isDenormalized) r.fields
  derived : ShowsFields d (t.fields.filter fun f => f.isDenormalized) r.derived

section Records

variable {t : RecordType} {d : Document}

/-- The entries with the values of some fields of a type are the only ones that show them. -/
theorem showsFields_iff {value : Field → Json} {fs : List Field} (hsub : fs.Sublist t.fields)
    (hvalue : ∀ f ∈ fs, decodeField d f = .ok (value f)) {entries : Document} :
    ShowsFields d fs entries ↔ entries = Entries.ofList (Field.pairs value fs) := by
  have hget : ∀ f ∈ fs, Entries.get? (Entries.ofList (Field.pairs value fs)) f.name =
      some (value f) := by
    intro f hf
    rw [Entries.get?_ofList, Field.get?_pairs t value hsub hf]
  have hkeys : ∀ name, name ∈ Entries.keys (Entries.ofList (Field.pairs value fs)) ↔
      ∃ f ∈ fs, f.name = name := by
    intro name
    have hnodup : (Entries.keys (Field.pairs value fs)).Nodup := by
      rw [Field.keys_pairs]
      exact (hsub.map Field.name).nodup t.nodup
    rw [Entries.keys, ((Entries.perm_ofList hnodup).map _).mem_iff, ← Entries.keys,
      Field.keys_pairs, List.mem_map]
  constructor
  · intro h
    refine h.sorted.eq_of_get? (Entries.sorted_ofList _) fun name => ?_
    by_cases hname : ∃ f ∈ fs, f.name = name
    · obtain ⟨f, hf, rfl⟩ := hname
      obtain ⟨w, hw, hshows⟩ := h.value f hf
      rw [decodeField_eq_ok_iff.symm, hvalue f hf, Except.ok.injEq] at hshows
      rw [hw, hget f hf, hshows]
    · rw [Entries.get?_eq_none_iff.mpr (mt (h.mem_keys_iff name).mp hname),
        Entries.get?_eq_none_iff.mpr (mt (hkeys name).mp hname)]
  · rintro rfl
    exact ⟨Entries.sorted_ofList _, hkeys,
      fun f hf => ⟨_, hget f hf, decodeField_eq_ok_iff.mp (hvalue f hf)⟩⟩

theorem decode_eq_ok_iff_shows {r : Record} : decode t d = .ok r ↔ Shows t d r := by
  rw [decode_eq_ok_iff]
  have hpart {keep : Field → Bool} {entries : Document}
      (hvalue : ∀ f ∈ t.fields, decodeField d f = .ok (fieldValue d f)) :
      ShowsFields d (t.fields.filter keep) entries ↔
        entries = Entries.ofList (Field.pairs (fieldValue d) (t.fields.filter keep)) :=
    showsFields_iff List.filter_sublist fun f hf => hvalue f (List.mem_filter.mp hf).1
  constructor
  · rintro ⟨hvalue, rfl⟩
    exact ⟨rfl, (hpart hvalue).mpr rfl, (hpart hvalue).mpr rfl⟩
  · intro h
    have hvalue : ∀ f ∈ t.fields, decodeField d f = .ok (fieldValue d f) := by
      intro f hf
      obtain ⟨w, hshows⟩ : ∃ w, f.Shows d w := by
        cases hf' : f.isDenormalized with
        | true =>
          obtain ⟨w, -, hshows⟩ := h.derived.value f (List.mem_filter.mpr ⟨hf, hf'⟩)
          exact ⟨w, hshows⟩
        | false =>
          obtain ⟨w, -, hshows⟩ := h.fields.value f (List.mem_filter.mpr ⟨hf, by rw [hf']; rfl⟩)
          exact ⟨w, hshows⟩
      have hw := decodeField_eq_ok_iff.mpr hshows
      rw [hw, fieldValue_eq hw]
    refine ⟨hvalue, ?_⟩
    obtain ⟨id, fields, derived⟩ := r
    obtain ⟨hid, hfields, hderived⟩ := h
    obtain rfl := hid
    obtain rfl := (hpart hvalue).mp hfields
    obtain rfl := (hpart hvalue).mp hderived
    rfl

theorem decode_eq_error_iff {e : InvalidBinary} :
    decode t d = .error e ↔ t.fields.mapM (decodeField d) = .error e :=
  Except.foldlM_eq_error_iff

end Records

/-- Decoding fails just if a field of bytes is present with a value that it may not hold, and
with the first such field.  Otherwise it gives the record that the document shows and no
other. -/
theorem decode_shape (t : RecordType) (d : Document) :
    ((∃ e, decode t d = .error e) ↔
      ∃ f ∈ t.fields, f.isBinary = true ∧ ∃ v, d.get? f.name = some v ∧ ¬f.Accepts v) ∧
    (∀ e, decode t d = .error e ↔ ∃ before f after, t.fields = before ++ f :: after ∧
      (∀ g ∈ before, g.isBinary = true → ∀ v, d.get? g.name = some v → g.Accepts v) ∧
      f.isBinary = true ∧ ∃ v found,
        d.get? f.name = some v ∧ f.Refuses v found ∧ e = { field := f.name, found }) ∧
    ∀ r, decode t d = .ok r ↔ Shows t d r := by
  refine ⟨?_, fun e => ?_, fun r => decode_eq_ok_iff_shows⟩
  · simp only [decode_eq_error_iff, Except.exists_eq_error_iff, Except.exists_mapM_iff,
      exists_decodeField_iff]
    push Not
    rfl
  · rw [decode_eq_error_iff, Except.mapM_eq_error_iff]
    simp only [exists_decodeField_iff, decodeField_eq_error_iff]

end Record

end RecordStore
