/-
Documents that can be read as records, before and after a modifier.

Decoding fails on a document only for a field of bytes that holds something else.  A
modifier can put such a value there: what it sets, what it adds to a list, or a number
that it adds to a missing field.  If all that it writes into fields of bytes can be
read, so can the document after it; taking things out never does harm.

* `Record.IsReadable` — a document that can be decoded;
* `Field.admits`, `RecordType.admits` — what may be written into fields of bytes;
* `Record.IsReadable.apply` — the document after a modifier;
* `Record.decodeField_project`, `Record.IsReadable.project` — what a projection shows of it.
-/
import RecordStore.Document.Projection
import RecordStore.Proofs.Document.Modifier
import RecordStore.Proofs.Record.Decoding

namespace RecordStore

/-! ### What may be written -/

/-- An item that an array in a field of bytes may hold: a byte string, if the field is a
list of these, or else a byte. -/
def Field.admitsItem (f : Field) (item : Json) : Bool :=
  if f.isArray then item.normalizeBytes?.isSome else item.byte?.isSome

/-- Whether an operator writes into a field of bytes what can be read: a value that can be
decoded, items that the field may hold, and no number. -/
def Field.admits (f : Field) (operator : String) (operand : Json) : Bool :=
  match operator with
  | "$set" => (Record.decodeBinary f operand).isOk
  | "$push" | "$addToSet" => (Modifier.eachItem operand).all f.admitsItem
  | "$inc" =>
    match operand with
    | .num _ => false
    | _ => true
  | _ => true

/-- Whether all that a modifier document writes into fields of bytes can be read. -/
def RecordType.admits (t : RecordType) (modifiers : Document) : Bool :=
  modifiers.all fun entry =>
    match entry.2 with
    | .obj fields => fields.all fun p =>
        (t.field? p.1).all fun f => !f.isBinary || f.admits entry.1 p.2
    | _ => true

/-! ### Lists of byte strings and of bytes -/

theorem Json.isSome_bytes?_arr (items : List Json) :
    (Json.arr items).bytes?.isSome = true ↔ ∀ item ∈ items, item.byte?.isSome = true := by
  rw [bytes?]
  induction items with
  | nil => simp
  | cons item rest ih =>
    rw [List.forall_mem_cons, ← ih, List.mapM_cons]
    cases item.byte? with
    | none => simp
    | some b => cases rest.mapM byte? <;> simp

namespace Record

theorem exists_decodeBytes_iff (field : String) {v : Json} :
    (∃ w, decodeBytes field v = .ok w) ↔ v.normalizeBytes?.isSome = true := by
  simp only [decodeBytes_eq_ok_iff, Option.isSome_iff_exists]

/-- An array in a field of bytes can be read item by item. -/
theorem exists_decodeBinary_arr_iff {f : Field} {items : List Json} :
    (∃ w, decodeBinary f (.arr items) = .ok w) ↔ ∀ item ∈ items, f.admitsItem item = true := by
  cases hf : f.isArray with
  | true =>
    have hitem : ∀ item, f.admitsItem item = item.normalizeBytes?.isSome := by
      intro item
      rw [Field.admitsItem, if_pos hf]
    rw [decodeBinary_arr hf]
    simp only [hitem, Except.map_eq_ok_iff, ← exists_decodeBytes_iff f.name]
    rw [← Except.exists_mapM_iff]
    constructor
    · rintro ⟨-, ws, hws, -⟩
      exact ⟨ws, hws⟩
    · rintro ⟨ws, hws⟩
      exact ⟨_, ws, hws, rfl⟩
  | false =>
    have hitem : ∀ item, f.admitsItem item = item.byte?.isSome := by
      intro item
      rw [Field.admitsItem, hf, if_neg Bool.false_ne_true]
    simp only [hitem]
    rw [decodeBinary_of_not_array hf, exists_decodeBytes_iff, ← Json.isSome_bytes?_arr,
      Json.normalizeBytes?]
    cases (Json.arr items).bytes? with
    | none => exact iff_of_false (by simp [Json.isNull, Json.wrappedBytes?]) (by simp)
    | some bytes => exact iff_of_true (by simp) rfl

/-! ### Readable documents -/

/-- Every field of the type has a value in the document. -/
def IsReadable (t : RecordType) (d : Document) : Prop :=
  ∀ f ∈ t.fields, ∃ v, decodeField d f = .ok v

theorem exists_decode_iff {t : RecordType} {d : Document} :
    (∃ r, decode t d = .ok r) ↔ IsReadable t d := by
  constructor
  · rintro ⟨r, hr⟩ f hf
    exact ⟨_, (decode_eq_ok_iff.mp hr).1 f hf⟩
  · intro h
    refine ⟨_, decode_eq_ok_iff.mpr ⟨fun f hf => ?_, rfl⟩⟩
    obtain ⟨v, hv⟩ := h f hf
    rw [hv, fieldValue_eq hv]

theorem exists_decodeAll_iff {t : RecordType} {ds : List Document} :
    (∃ rs, decodeAll t ds = .ok rs) ↔ ∀ d ∈ ds, IsReadable t d := by
  rw [decodeAll, Except.exists_mapM_iff]
  exact forall₂_congr fun d _ => exists_decode_iff

/-! ### One operator -/

section Operator

variable {d d' : Document} {f : Field}

theorem exists_decodeField_of_not_binary (d : Document) (h : f.isBinary = false) :
    ∃ v, decodeField d f = .ok v := by
  cases hd : d.get? f.name with
  | none => exact ⟨_, decodeField_of_missing hd⟩
  | some v => exact ⟨v, by rw [decodeField_of_get? hd, h, if_neg Bool.false_ne_true]⟩

theorem exists_decodeField_insert {v : Json} (h : ∃ w, decodeBinary f v = .ok w) :
    ∃ w, decodeField (d.insert f.name v) f = .ok w := by
  have hget : (d.insert f.name v).get? f.name = some v := by rw [Entries.get?_insert, if_pos rfl]
  obtain ⟨w, hw⟩ := h
  rw [decodeField_of_get? hget]
  split
  · exact ⟨w, hw⟩
  · exact ⟨v, rfl⟩

variable (hbinary : f.isBinary = true) (hd : ∃ v, decodeField d f = .ok v)

include hbinary hd

/-- The items of a readable array are items that the field may hold. -/
theorem admitsItem_of_get? {items : List Json} (h : d.get? f.name = some (.arr items)) :
    ∀ item ∈ items, f.admitsItem item = true := by
  rw [decodeField_of_get? h, if_pos hbinary] at hd
  exact exists_decodeBinary_arr_iff.mp hd

theorem admitsItem_of_arrayIn {items : List Json} (h : Modifier.arrayIn d f.name = .ok items) :
    ∀ item ∈ items, f.admitsItem item = true := by
  rw [Modifier.arrayIn] at h
  split at h
  · obtain rfl : [] = items := Except.ok.inj h
    simp
  · rename_i stored hget
    obtain rfl : stored = items := Except.ok.inj h
    exact admitsItem_of_get? hbinary hd hget
  · exact absurd h (by simp)

/-- An operator that is admitted keeps its field readable. -/
theorem exists_decodeField_applyOperator {operator : String} {operand : Json}
    (hadmits : f.admits operator operand = true)
    (h : Modifier.applyOperator operator f.name operand d = .ok d') :
    ∃ v, decodeField d' f = .ok v := by
  unfold Modifier.applyOperator at h
  split at h
  · -- `$set`
    obtain rfl := Except.ok.inj h
    exact exists_decodeField_insert (Except.isOk_iff.mp hadmits)
  · -- `$unset`
    obtain rfl := Except.ok.inj h
    exact ⟨_, decodeField_of_missing (by rw [Entries.get?_erase, if_pos rfl])⟩
  · -- `$inc` would put a number into the field, if it could be applied at all.
    split at h
    · exact absurd hadmits Bool.false_ne_true
    · exact absurd hadmits Bool.false_ne_true
    · exact absurd h (by simp)
  · -- `$push`
    obtain ⟨items, hitems, hpushed⟩ := Except.bind_eq_ok_iff.mp h
    obtain rfl := Except.ok.inj hpushed
    refine exists_decodeField_insert (exists_decodeBinary_arr_iff.mpr fun item hitem => ?_)
    rcases List.mem_append.mp hitem with hold | hnew
    · exact admitsItem_of_arrayIn hbinary hd hitems item hold
    · exact List.all_eq_true.mp hadmits item hnew
  · -- `$addToSet`
    obtain ⟨items, hitems, hadded⟩ := Except.bind_eq_ok_iff.mp h
    obtain rfl := Except.ok.inj hadded
    refine exists_decodeField_insert (exists_decodeBinary_arr_iff.mpr fun item hitem => ?_)
    rcases Modifier.mem_foldl_addToSet hitem with hold | hnew
    · exact admitsItem_of_arrayIn hbinary hd hitems item hold
    · exact List.all_eq_true.mp hadmits item hnew
  · -- `$pull`
    split at h
    · exact Except.ok.inj h ▸ hd
    · rename_i items hget
      obtain rfl := Except.ok.inj h
      refine exists_decodeField_insert (exists_decodeBinary_arr_iff.mpr fun item hitem => ?_)
      exact admitsItem_of_get? hbinary hd hget item (List.mem_filter.mp hitem).1
    · exact absurd h (by simp)
  · exact absurd h (by simp)

end Operator

/-! ### Modifiers -/

section Modifier

variable {t : RecordType} {d d' : Document}

theorem IsReadable.applyField (h : IsReadable t d) {operator : String} {p : String × Json}
    (hadmits : ((t.field? p.1).all fun f => !f.isBinary || f.admits operator p.2) = true)
    (happly : Modifier.applyField operator d p = .ok d') : IsReadable t d' := by
  rw [Modifier.applyField] at happly
  split at happly
  · exact absurd happly (by simp)
  · intro f hf
    cases hbinary : f.isBinary with
    | false => exact exists_decodeField_of_not_binary d' hbinary
    | true =>
      by_cases hname : p.1 = f.name
      · rw [hname, t.field?_of_mem hf, Option.all_some, hbinary] at hadmits
        rw [hname] at happly
        exact exists_decodeField_applyOperator hbinary (h f hf) hadmits happly
      -- The operator is on another field and does not touch this one.
      · obtain ⟨v, hv⟩ := h f hf
        refine ⟨v, ?_⟩
        rw [decodeField, Modifier.get?_applyOperator happly hname]
        exact hv

/-- A modifier that is admitted keeps a document readable. -/
theorem IsReadable.apply (h : IsReadable t d) {modifiers : Document}
    (hadmits : t.admits modifiers = true) (happly : Modifier.apply modifiers d = .ok d') :
    IsReadable t d' := by
  refine Except.foldlM_preserves (fun entry hentry d d' hd hstep => ?_) h happly
  have hfields := List.all_eq_true.mp hadmits entry hentry
  rw [Modifier.applyEntry] at hstep
  split at hstep
  · rename_i fields hobj
    rw [hobj] at hfields
    refine Except.foldlM_preserves (fun p hp d d' hd hstep => ?_) hd hstep
    exact hd.applyField (List.all_eq_true.mp hfields p hp) hstep
  · exact absurd hstep (by simp)

end Modifier

/-! ### Projections -/

end Record

/-- Whether a field is shown is a matter of its name. -/
theorem Document.get?_project (projection d : Document) (field : String) :
    (Document.project projection d).get? field =
      if Projection.keeps projection field then d.get? field else none := by
  cases projection with
  | nil => rfl
  | cons p rest => exact Entries.get?_filter d (Projection.keeps (p :: rest)) field

/-- A field that is not shown counts as missing, and so it has its default. -/
theorem Record.decodeField_project (projection d : Document) (f : Field) :
    decodeField (Document.project projection d) f =
      if Projection.keeps projection f.name then decodeField d f else .ok f.default := by
  have hget := Document.get?_project projection d f.name
  split
  · rename_i hkeeps
    rw [if_pos hkeeps] at hget
    rw [decodeField, hget]
    rfl
  · rename_i hkeeps
    rw [if_neg hkeeps] at hget
    exact decodeField_of_missing hget

theorem Record.IsReadable.project {t : RecordType} {d : Document} (h : IsReadable t d)
    (projection : Document) : IsReadable t (Document.project projection d) := by
  intro f hf
  rw [decodeField_project]
  split
  · exact h f hf
  · exact ⟨f.default, rfl⟩

end RecordStore
