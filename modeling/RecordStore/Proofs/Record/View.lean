/-
The identifier that a record shows.

A record has two places for an identifier, its own one and a field named `id`.  The view of the
record as one object has both under the same key, and there the field is put last and stays,
be it null or empty.  The document takes the record's own identifier first, and the field only
if that one is missing or empty.  So the two agree where at most one of the places is taken, or
both hold the same text, and a record with two identifiers shows the one that it is not stored
under.  No such record is made from a plain object or from a document.

* `Record.viewId?` — the identifier in the view, and `Record.viewId?_eq_some_iff` which one it is;
* `Record.Unambiguous` — a record with one identifier at most;
* `Record.unambiguous_ofObject`, `Record.unambiguous_decode` — the records of plain objects and
  of documents;
* `Record.stored_as_shown_iff` — the records that are stored under the identifier they show.
-/
import RecordStore.Proofs.Record.Completion
import RecordStore.Proofs.Record.Decoding

namespace RecordStore.Record

variable {r : Record} {text : String}

/-! ### The view -/

/-- What stands under `id` in the view of a record as one object, as an identifier. -/
def viewId? (r : Record) : Option String :=
  (r.toJson.entries?.bind fun view => view.get? idKey).bind Json.idText?

theorem viewId?_eq (hr : r.fields.Sorted) :
    r.viewId? = ((r.fields.get? idKey).or (r.id.map .str)).bind Json.idText? := by
  have hown : Entries.get? (r.id.toList.map fun id => (idKey, Json.str id)) idKey =
      r.id.map .str := by
    cases r.id with
    | none => rfl
    | some own => exact if_pos rfl
  rw [viewId?, toJson, Json.entries?, Option.bind_some, Entries.get?_insertAll,
    Entries.get?_reverse hr.nodup_keys, hown]

/-- A record shows the text of its field `id`, and its own identifier if it has no such field. -/
theorem viewId?_eq_some_iff (hr : r.fields.Sorted) :
    r.viewId? = some text ↔
      (∃ v, r.fields.get? idKey = some v ∧ v.idText? = some text) ∨
        (r.fields.get? idKey = none ∧ r.id = some text) := by
  rw [viewId?_eq hr]
  cases r.fields.get? idKey with
  | some v => simp
  | none =>
    cases r.id with
    | none => simp
    | some own => simp [Json.idText?_eq_some_iff]

/-! ### Records with one identifier -/

/-- A record has one identifier at most: if it has its own one and a field named `id`, and
neither of them is empty, they are the same text. -/
def Unambiguous (r : Record) : Prop :=
  ∀ own v text, r.id = some own → own ≠ "" →
    r.fields.get? idKey = some v → v.idText? = some text → text ≠ "" → text = own

theorem unambiguous_of_notMem (h : idKey ∉ r.fields.keys) : r.Unambiguous := by
  intro own v text _ _ hv
  rw [Entries.get?_eq_none_iff.mpr h] at hv
  exact absurd hv.symm (Option.some_ne_none v)

/-- The identifier of a plain object is taken out of its entries. -/
theorem unambiguous_ofObject (object : Document) : (ofObject object).Unambiguous := by
  refine unambiguous_of_notMem (Entries.get?_eq_none_iff.mp ?_)
  show (object.erase idKey).get? idKey = none
  rw [Entries.get?_erase, if_pos rfl]

/-- Decoding places the fields of the type and no others. -/
theorem unambiguous_decode {t : RecordType} {d : Document} (h : decode t d = .ok r) :
    r.Unambiguous := by
  obtain ⟨-, rfl⟩ := decode_eq_ok_iff.mp h
  refine unambiguous_of_notMem (Entries.get?_eq_none_iff.mp ?_)
  show Entries.get? (Entries.ofList _) idKey = none
  rw [Entries.get?_ofList]
  exact Field.get?_pairs_eq_none _ fun f hf => t.name_ne_idKey (List.mem_filter.mp hf).1

theorem Unambiguous.eq_of_viewId? (h : r.Unambiguous) (hr : r.fields.Sorted)
    (hview : r.viewId? = some text) (hne : text ≠ "") {own : String} (hid : r.id = some own)
    (hown : own ≠ "") : text = own := by
  rcases (viewId?_eq_some_iff hr).mp hview with ⟨v, hv, htext⟩ | ⟨-, hid'⟩
  · exact h own v text hid hown hv htext hne
  · exact Option.some_inj.mp (hid'.symm.trans hid)

/-! ### Stored as shown -/

/-- A record that shows an identifier is given this one or its own, and none is made up. -/
theorem Identified.of_viewId? {t : RecordType} {ids ids' : IdSupply} {id : String}
    (h : Identified t r ids id ids') (hr : r.fields.Sorted) (hview : r.viewId? = some text)
    (hne : text ≠ "") : ids' = ids ∧ (id = text ∨ r.id = some id ∧ id ≠ "") := by
  rw [viewId?_eq_some_iff hr] at hview
  cases h with
  | own hid hown => exact ⟨rfl, .inr ⟨hid, hown⟩⟩
  | field _ hv htext _ =>
    refine ⟨rfl, .inl ?_⟩
    rcases hview with ⟨w, hw, hshown⟩ | ⟨hmissing, -⟩
    · rw [← Option.some_inj.mp (hv.symm.trans hw), htext] at hshown
      exact Option.some_inj.mp hshown
    · exact absurd (hv.symm.trans hmissing) (Option.some_ne_none _)
  | made hid hfield =>
    rcases hview with ⟨v, hv, hshown⟩ | ⟨-, hown⟩
    · exact absurd (hfield v text hv hshown) hne
    · rcases hid with hid | hid
      · exact absurd (hown.symm.trans hid) (Option.some_ne_none _)
      · exact absurd (Option.some_inj.mp (hown.symm.trans hid)) hne

/-- A record is stored under the identifier that it shows, just if it has one identifier at
most; and none is made up for a record that shows one. -/
theorem stored_as_shown_iff (t : RecordType) (r : Record) (hr : r.fields.Sorted)
    (ids : IdSupply) :
    ((∀ text, r.viewId? = some text → text ≠ "" →
        (encode t r ids).1.get? Document.idKey = some (.str text)) ↔ r.Unambiguous) ∧
    ∀ text, r.viewId? = some text → text ≠ "" → (encode t r ids).2 = ids := by
  have hgiven := identified_assignId t r ids
  have hstored : (encode t r ids).1.get? Document.idKey = some (.str (assignId t r ids).1) :=
    get?_toDocument_idKey t r _
  refine ⟨⟨fun hshown own v text hid hown hv htext hne => ?_, fun h text hview hne => ?_⟩,
    fun text hview hne => (hgiven.of_viewId? hr hview hne).1⟩
  -- The view shows the field, and the document has the record's own identifier.
  · have hview : r.viewId? = some text := (viewId?_eq_some_iff hr).mpr (.inl ⟨v, hv, htext⟩)
    have hsame := hshown text hview hne
    rw [hstored, assignId_of_id t hid hown, Option.some_inj, Json.str.injEq] at hsame
    exact hsame.symm
  · rw [hstored]
    rcases (hgiven.of_viewId? hr hview hne).2 with hsame | ⟨hid, hown⟩
    · rw [hsame]
    · rw [h.eq_of_viewId? hr hview hne hid hown]

/-- A plain object with a number for its identifier is shown and stored under its text. -/
theorem stored_as_shown_number :
    let user : RecordType :=
      { name := "user", fields := [{ name := "name" }]
        nodup := by decide, unreserved := by decide }
    let r := Record.ofObject [("id", .ofNat 7), ("name", .str "Ada")]
    let ids : IdSupply := { generate := fun _ type => "new-" ++ type }
    r.fields.Sorted ∧ r.viewId? = some "7" ∧
      (encode user r ids).1.get? Document.idKey = some (.str "7") ∧
      (encode user r ids).2 = ids := by
  intro user r ids
  have hr : r.fields.Sorted := List.pairwise_singleton _ _
  have hview : r.viewId? = some "7" := rfl
  obtain ⟨hiff, hsupply⟩ := stored_as_shown_iff user r hr ids
  exact ⟨hr, hview, hiff.mpr (unambiguous_ofObject _) "7" hview (by decide),
    hsupply "7" hview (by decide)⟩

/-- A record with an identifier of its own and another one among its fields: it shows the
field and is stored under its own. -/
theorem stored_as_shown_two_ids :
    let user : RecordType :=
      { name := "user", fields := [{ name := "name" }]
        nodup := by decide, unreserved := by decide }
    let r : Record := { id := some "u1", fields := [("id", .str "u2")] }
    let ids : IdSupply := { generate := fun _ type => "new-" ++ type }
    ¬∀ text, r.viewId? = some text → text ≠ "" →
      (encode user r ids).1.get? Document.idKey = some (.str text) := by
  intro user r ids hshown
  have hview : r.viewId? = some "u2" := rfl
  have hstored : (encode user r ids).1.get? Document.idKey = some (.str "u1") := rfl
  have hsame := hshown "u2" hview (by decide)
  rw [hstored, Option.some_inj, Json.str.injEq] at hsame
  exact absurd hsame (by decide)

end RecordStore.Record
