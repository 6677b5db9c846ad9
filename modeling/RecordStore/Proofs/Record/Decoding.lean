/-
The record of a document, field by field.

Decoding goes through the fields of the type and stops at the first one that has no
value.  If none stops it, each field has a value of its own, and the record holds
those values, the denormalized ones apart.

* `Record.decode_eq_ok_iff` — decoding succeeds if every field has a value, and with
  which record;
* `Record.decodeField_settled` — a value that decoding gave is decoded to itself;
* `Record.decodeField_default` — so is the default of a field.
-/
import RecordStore.Proofs.Except
import RecordStore.Proofs.Record.Bytes
import RecordStore.Proofs.Record.Encoding

namespace RecordStore

namespace Record

/-! ### Byte strings -/

theorem decodeBytes_settled {field : String} {v w : Json} (h : decodeBytes field v = .ok w) :
    decodeBytes field w = .ok w := by
  rw [decodeBytes_eq_ok_iff] at h ⊢
  exact Json.normalizeBytes?_normalizeBytes? h

theorem decodeBinary_of_not_array {f : Field} (h : f.isArray = false) (v : Json) :
    decodeBinary f v = decodeBytes f.name v := by
  simp only [decodeBinary, h, if_neg Bool.false_ne_true]

theorem decodeBinary_null {f : Field} (h : f.isArray = true) :
    decodeBinary f .null = .ok .null := by
  simp only [decodeBinary, h, if_true]

theorem decodeBinary_arr {f : Field} (h : f.isArray = true) (items : List Json) :
    decodeBinary f (.arr items) = (items.mapM (decodeBytes f.name)).map .arr := by
  simp only [decodeBinary, h, if_true]

theorem decodeBinary_settled {f : Field} {v w : Json} (h : decodeBinary f v = .ok w) :
    decodeBinary f w = .ok w := by
  cases hf : f.isArray with
  | false =>
    rw [decodeBinary_of_not_array hf] at h ⊢
    exact decodeBytes_settled h
  | true =>
    cases v with
    | null =>
      rw [decodeBinary_null hf] at h
      obtain rfl : Json.null = w := Except.ok.inj h
      exact decodeBinary_null hf
    | arr items =>
      rw [decodeBinary_arr hf] at h
      cases hitems : items.mapM (decodeBytes f.name) with
      | error e =>
        rw [hitems] at h
        exact absurd h (by simp [Except.map])
      | ok ws =>
        rw [hitems] at h
        obtain rfl : Json.arr ws = w := Except.ok.inj h
        have hws : ws.mapM (decodeBytes f.name) = .ok ws := by
          refine Except.mapM_ok_self fun u hu => ?_
          obtain ⟨x, -, hx⟩ := Except.exists_of_mem_mapM hitems u hu
          exact decodeBytes_settled hx
        rw [decodeBinary_arr hf, hws]
        rfl
    -- Nothing else is a list of byte strings.
    | bool _ | num _ | str _ | obj _ =>
      simp only [decodeBinary, hf, if_true] at h
      exact absurd h (by simp)

theorem decodeBinary_default (f : Field) : decodeBinary f f.default = .ok f.default := by
  cases hf : f.isArray with
  | true =>
    rw [Field.default, hf, if_pos rfl, decodeBinary_arr hf]
    rfl
  | false =>
    rw [Field.default, hf, if_neg Bool.false_ne_true, decodeBinary_of_not_array hf]
    rfl

/-! ### Fields -/

theorem decodeField_of_get? {d : Document} {f : Field} {v : Json} (h : d.get? f.name = some v) :
    decodeField d f = if f.isBinary then decodeBinary f v else .ok v := by
  simp only [decodeField, h]

theorem decodeField_of_missing {d : Document} {f : Field} (h : d.get? f.name = none) :
    decodeField d f = .ok f.default := by
  simp only [decodeField, h]

theorem decodeField_default {d : Document} {f : Field} (h : d.get? f.name = some f.default) :
    decodeField d f = .ok f.default := by
  rw [decodeField_of_get? h, decodeBinary_default, ite_self]

/-- A document that holds a value that was decoded decodes it to itself. -/
theorem decodeField_settled {d d' : Document} {f : Field} {v : Json}
    (h : decodeField d f = .ok v) (hd' : d'.get? f.name = some v) :
    decodeField d' f = .ok v := by
  cases hd : d.get? f.name with
  | none =>
    rw [decodeField_of_missing hd] at h
    obtain rfl : f.default = v := Except.ok.inj h
    exact decodeField_default hd'
  | some stored =>
    rw [decodeField_of_get? hd] at h
    rw [decodeField_of_get? hd']
    cases hf : f.isBinary with
    | false => rw [if_neg Bool.false_ne_true]
    | true =>
      rw [hf, if_pos rfl] at h
      rw [if_pos rfl]
      exact decodeBinary_settled h

/-- The value of a field in a document, if there is one. -/
def fieldValue (d : Document) (f : Field) : Json := (decodeField d f).toOption.getD .null

theorem fieldValue_eq {d : Document} {f : Field} {v : Json} (h : decodeField d f = .ok v) :
    fieldValue d f = v := by
  rw [fieldValue, h]
  rfl

/-! ### Records -/

/-- The record that has these values in the fields of a type, the denormalized ones
apart. -/
def ofValues (t : RecordType) (id : Option String) (value : Field → Json) : Record where
  id := id
  fields := .ofList (Field.pairs value (t.fields.filter fun f => !f.isDenormalized))
  derived := .ofList (Field.pairs value (t.fields.filter fun f => f.isDenormalized))

/-- Placing fields one after the other inserts each where it belongs. -/
theorem foldl_place (value : Field → Json) (fs : List Field) (r : Record) :
    fs.foldl (fun r f => place r f (value f)) r =
      { id := r.id
        fields := r.fields.insertAll (Field.pairs value (fs.filter fun f => !f.isDenormalized))
        derived :=
          r.derived.insertAll (Field.pairs value (fs.filter fun f => f.isDenormalized)) } := by
  induction fs generalizing r with
  | nil => rfl
  | cons f rest ih =>
    -- `f` goes into one of the two and is left out of the other.
    rw [List.foldl_cons, ih, place]
    cases hf : f.isDenormalized with
    | true =>
      rw [if_pos rfl, List.filter_cons_of_neg (by simp [hf]), List.filter_cons_of_pos hf]
      rfl
    | false =>
      rw [if_neg Bool.false_ne_true, List.filter_cons_of_pos (by simp [hf]),
        List.filter_cons_of_neg (by simp [hf])]
      rfl

theorem foldlM_place_of_ok {d : Document} {value : Field → Json} {fs : List Field}
    (h : ∀ f ∈ fs, decodeField d f = .ok (value f)) (r : Record) :
    fs.foldlM (fun r f => do return place r f (← decodeField d f)) r =
      .ok (fs.foldl (fun r f => place r f (value f)) r) := by
  induction fs generalizing r with
  | nil => rfl
  | cons f rest ih =>
    rw [List.foldlM_cons, h f List.mem_cons_self]
    exact ih (fun g hg => h g (List.mem_cons_of_mem _ hg)) _

theorem decodeField_of_foldlM_place {d : Document} {fs : List Field} {r r' : Record}
    (h : fs.foldlM (fun r f => do return place r f (← decodeField d f)) r = .ok r') :
    ∀ f ∈ fs, decodeField d f = .ok (fieldValue d f) := by
  induction fs generalizing r with
  | nil => simp
  | cons f rest ih =>
    rw [List.foldlM_cons, Except.bind_eq_ok_iff] at h
    obtain ⟨placed, hplaced, hrest⟩ := h
    obtain ⟨v, hf, -⟩ := Except.bind_eq_ok_iff.mp hplaced
    intro g hg
    rcases List.mem_cons.mp hg with rfl | hg
    · rw [hf, fieldValue_eq hf]
    · exact ih hrest g hg

theorem decode_of_values {t : RecordType} {d : Document} {value : Field → Json}
    (h : ∀ f ∈ t.fields, decodeField d f = .ok (value f)) :
    decode t d = .ok (ofValues t ((d.get? Document.idKey).bind Json.idText?) value) := by
  rw [decode, foldlM_place_of_ok h, foldl_place]
  rfl

/-- Decoding succeeds just if every field has a value, and gives the record of those
values. -/
theorem decode_eq_ok_iff {t : RecordType} {d : Document} {r : Record} :
    decode t d = .ok r ↔
      (∀ f ∈ t.fields, decodeField d f = .ok (fieldValue d f)) ∧
        r = ofValues t ((d.get? Document.idKey).bind Json.idText?) (fieldValue d) := by
  constructor
  · intro h
    have hfields := decodeField_of_foldlM_place h
    rw [decode_of_values hfields, Except.ok.injEq] at h
    exact ⟨hfields, h.symm⟩
  · rintro ⟨hfields, rfl⟩
    exact decode_of_values hfields

theorem id_of_decode {t : RecordType} {d : Document} {r : Record} (h : decode t d = .ok r) :
    r.id = (d.get? Document.idKey).bind Json.idText? := by
  obtain ⟨-, rfl⟩ := decode_eq_ok_iff.mp h
  rfl

end Record

end RecordStore
