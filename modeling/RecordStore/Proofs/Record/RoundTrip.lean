/-
Encoding and decoding again.

Decoding a record's document need not give the record back: keys outside the type
are dropped, missing fields appear, byte strings take their plain form.  But what it
gives is settled.  Passing through a document once more changes only the
denormalized fields, which are never written and so come back as defaults, and after
that nothing at all.

* `Record.ofValues` is what decoding gives; `Record.settled` are the values that
  another pass leaves in the fields;
* `Record.decode_toDocument_ofValues` — one pass from a decoded record;
* `Record.round_trip_settles` — all passes after the first one.
-/
import RecordStore.Proofs.Record.Decoding

namespace RecordStore.Record

/-! ### The fields of a decoded record -/

section OfValues

variable {t : RecordType} {f : Field} (id : Option String) (value : Field → Json)

theorem get?_fields_ofValues (hf : f ∈ t.fields) (hwritten : f.isDenormalized = false) :
    Entries.get? (ofValues t id value).fields.reverse f.name = some (value f) := by
  show Entries.get? (Entries.ofList _).reverse f.name = some (value f)
  rw [Entries.get?_ofList_reverse, Field.get?_pairs t value List.filter_sublist
    (List.mem_filter.mpr ⟨hf, by rw [hwritten]; rfl⟩)]

/-- Denormalized fields are none of those that are written. -/
theorem get?_fields_ofValues_denormalized (hf : f ∈ t.fields) (hderived : f.isDenormalized = true) :
    Entries.get? (ofValues t id value).fields.reverse f.name = none := by
  show Entries.get? (Entries.ofList _).reverse f.name = none
  rw [Entries.get?_ofList_reverse, Field.get?_pairs_eq_none]
  intro g hg hname
  obtain ⟨hgt, hgwritten⟩ := List.mem_filter.mp hg
  rw [t.eq_of_name_eq hgt hf hname, hderived] at hgwritten
  exact absurd hgwritten Bool.false_ne_true

theorem get?_derived_ofValues (hf : f ∈ t.fields) (hderived : f.isDenormalized = true) :
    (ofValues t id value).derived.get? f.name = some (value f) := by
  show Entries.get? (Entries.ofList _) f.name = some (value f)
  rw [Entries.get?_ofList, Field.get?_pairs t value List.filter_sublist
    (List.mem_filter.mpr ⟨hf, hderived⟩)]

theorem pairs_congr {value value' : Field → Json} {fs : List Field}
    (h : ∀ g ∈ fs, value g = value' g) : Field.pairs value fs = Field.pairs value' fs :=
  List.map_congr_left fun g hg => by rw [h g hg]

theorem ofValues_congr {value value' : Field → Json} (h : ∀ g ∈ t.fields, value g = value' g) :
    ofValues t id value = ofValues t id value' := by
  have hpart : ∀ keep : Field → Bool,
      Field.pairs value (t.fields.filter keep) = Field.pairs value' (t.fields.filter keep) :=
    fun keep => pairs_congr fun g hg => h g (List.mem_filter.mp hg).1
  rw [ofValues, ofValues, hpart, hpart]

end OfValues

/-! ### One pass -/

/-- The values that a pass through a document leaves in the fields: denormalized
fields fall back to their defaults. -/
def settled (value : Field → Json) (f : Field) : Json :=
  if f.isDenormalized then f.default else value f

theorem settled_of_written (value : Field → Json) {f : Field} (h : f.isDenormalized = false) :
    settled value f = value f := by
  rw [settled, h, if_neg Bool.false_ne_true]

theorem settled_of_denormalized (value : Field → Json) {f : Field} (h : f.isDenormalized = true) :
    settled value f = f.default := by
  rw [settled, h, if_pos rfl]

theorem fields_ofValues_settled (t : RecordType) (id : Option String) (value : Field → Json) :
    (ofValues t id (settled value)).fields = (ofValues t id value).fields := by
  show Entries.ofList _ = Entries.ofList _
  rw [pairs_congr]
  intro g hg
  exact settled_of_written value (by simpa using (List.mem_filter.mp hg).2)

/-- The values of a decoded record are decoded to themselves, and the denormalized
fields, which are not written, to their defaults. -/
theorem decode_toDocument_ofValues {t : RecordType} {d : Document} {value : Field → Json}
    (h : ∀ f ∈ t.fields, decodeField d f = .ok (value f)) (id : String) {r : Record}
    (hr : r.fields = (ofValues t (some id) value).fields) :
    decode t (toDocument t r id) = .ok (ofValues t (some id) (settled value)) := by
  have hfields : ∀ f ∈ t.fields,
      decodeField (toDocument t r id) f = .ok (settled value f) := by
    intro f hf
    have hget := get?_toDocument_field t r id hf
    rw [hr] at hget
    cases hd : f.isDenormalized with
    -- Not among the fields that were decoded, so the document has the default.
    | true =>
      rw [get?_fields_ofValues_denormalized _ _ hf hd, Option.getD_none] at hget
      rw [settled_of_denormalized value hd]
      exact decodeField_default hget
    | false =>
      rw [get?_fields_ofValues _ _ hf hd, Option.getD_some] at hget
      rw [settled_of_written value hd]
      exact decodeField_settled (h f hf) hget
  rw [decode_of_values hfields, get?_toDocument_idKey]
  rfl

/-! ### All passes -/

/-- If the record brings no denormalized field, its document holds their defaults. -/
theorem fieldValue_toDocument_of_not_supplied {t : RecordType} {r : Record} (id : String)
    {f : Field} (hf : f ∈ t.fields) (h : r.fields.contains f.name = false) :
    fieldValue (toDocument t r id) f = f.default := by
  have hget := get?_toDocument_field t r id hf
  rw [Entries.get?_reverse_eq_none_iff.mpr h, Option.getD_none] at hget
  exact fieldValue_eq (decodeField_default hget)

theorem encode_of_id (t : RecordType) {r : Record} {id : String} (hid : r.id = some id)
    (hne : id ≠ "") (ids : IdSupply) : encode t r ids = (toDocument t r id, ids) := by
  rw [encode, assignId_of_id t hid hne]

/-- After the first pass a record keeps its identifier and its fields, no identifier
is made up, and after the second pass nothing changes at all.  A record without
denormalized fields among those it brings has settled after the first pass. -/
theorem round_trip_settles (t : RecordType) (r : Record) (ids : IdSupply)
    (nonempty : ∀ n type, ids.generate n type ≠ "") {r₁ : Record}
    (first : decode t (encode t r ids).1 = .ok r₁) :
    ∃ r₂ : Record,
      (∀ ids', decode t (encode t r₁ ids').1 = .ok r₂ ∧ (encode t r₁ ids').2 = ids') ∧
      r₂.id = r₁.id ∧ r₂.fields = r₁.fields ∧
      (∀ f ∈ t.fields, f.isDenormalized = true → r₂.derived.get? f.name = some f.default) ∧
      (∀ ids', decode t (encode t r₂ ids').1 = .ok r₂ ∧ (encode t r₂ ids').2 = ids') ∧
      ((∀ f ∈ t.fields, f.isDenormalized = true → r.fields.contains f.name = false) →
        r₂ = r₁) := by
  obtain ⟨id, hid⟩ : ∃ id, (assignId t r ids).1 = id := ⟨_, rfl⟩
  have hne : id ≠ "" := hid ▸ assignId_ne_empty t r ids nonempty
  have hdoc : (encode t r ids).1 = toDocument t r id := by rw [← hid]; rfl
  rw [hdoc, decode_eq_ok_iff, get?_toDocument_idKey] at first
  obtain ⟨hvalues, rfl⟩ := first
  -- One pass from any record with this identifier and these fields, whatever is derived.
  have hpass : ∀ r' : Record, r'.id = some id →
      r'.fields = (ofValues t (some id) (fieldValue (toDocument t r id))).fields → ∀ ids',
      decode t (encode t r' ids').1
          = .ok (ofValues t (some id) (settled (fieldValue (toDocument t r id)))) ∧
        (encode t r' ids').2 = ids' := by
    intro r' hid' hfields ids'
    rw [encode_of_id t hid' hne]
    exact ⟨decode_toDocument_ofValues hvalues id hfields, rfl⟩
  refine ⟨ofValues t (some id) (settled (fieldValue (toDocument t r id))), hpass _ rfl rfl, rfl,
    fields_ofValues_settled t _ _, ?_, hpass _ rfl (fields_ofValues_settled t _ _), ?_⟩
  · intro f hf hderived
    rw [get?_derived_ofValues _ _ hf hderived, settled_of_denormalized _ hderived]
  -- Only the denormalized fields are in question, and there the defaults stood before.
  · intro hsupplied
    refine ofValues_congr (some id) fun f hf => ?_
    cases hd : f.isDenormalized with
    | false => exact settled_of_written _ hd
    | true =>
      rw [settled_of_denormalized _ hd,
        fieldValue_toDocument_of_not_supplied id hf (hsupplied f hf hd)]

/-- A user whose photo is wrapped as text and who brings the denormalized field. -/
theorem round_trip_settles_user :
    let t : RecordType :=
      { name := "user"
        fields := [{ name := "name" }, { name := "photos", storage := .binary, isArray := true },
          { name := "createdBy", isArray := true, isDenormalized := true }]
        nodup := by decide, unreserved := by decide }
    let r : Record := { fields := [("createdBy", .arr [.str "p1"]), ("id", .ofNat 7),
      ("photos", .arr [.obj [("$binary", .str "AQI=")], .null])] }
    let ids : IdSupply := { generate := fun _ type => "new-" ++ type }
    let r₁ : Record :=
      { id := some "7"
        fields := [("name", .null), ("photos", .arr [.arr [.ofNat 1, .ofNat 2], .null])]
        derived := [("createdBy", .arr [.str "p1"])] }
    (∀ n type, ids.generate n type ≠ "") ∧ decode t (encode t r ids).1 = .ok r₁ ∧
      ∃ r₂ : Record, decode t (encode t r₁ ids).1 = .ok r₂ ∧ r₂.id = some "7" ∧
        r₂.fields = r₁.fields ∧ r₂.derived.get? "createdBy" = some (.arr []) ∧
        decode t (encode t r₂ ids).1 = .ok r₂ := by
  intro t r ids r₁
  have nonempty : ∀ n type, ids.generate n type ≠ "" := by
    intro n type h
    have hlength : ("new-" ++ type).length = 0 := by
      rw [show "new-" ++ type = "" from h]
      rfl
    rw [String.length_append] at hlength
    exact absurd hlength (by simp)
  have first : decode t (encode t r ids).1 = .ok r₁ := rfl
  obtain ⟨r₂, second, hid, hfields, hderived, third, -⟩ :=
    round_trip_settles t r ids nonempty first
  exact ⟨nonempty, first, r₂, (second ids).1, hid, hfields,
    hderived { name := "createdBy", isArray := true, isDenormalized := true } (by decide) rfl,
    (third ids).1⟩

end RecordStore.Record
