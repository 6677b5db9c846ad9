/-
Updates of different documents.

An update by label changes the document with that label in its place, and leaves all
labels as they are.  So neither of two updates by different labels has a say in what
the other one finds, and the store comes out the same whichever of them is first.

* `Memory.Labelled` — labels that stand once, which is what all of this rests on;
* `Memory.fst_updateOne_updateOne` — an update is answered as if the other were not there;
* `Memory.snd_updateOne_comm` — the store after both.
-/
import RecordStore.Proofs.Store.Memory

namespace RecordStore

namespace Document

theorem label_attempt (modifiers d : Document) :
    (Modifier.attempt modifiers d).label = d.label := by
  rw [label, label, Modifier.get?_attempt_idKey]

theorem IsLabelled.attempt {d : Document} (h : d.IsLabelled) (modifiers : Document) :
    (Modifier.attempt modifiers d).IsLabelled := by
  rw [IsLabelled, Modifier.get?_attempt_idKey, label_attempt]
  exact h

end Document

namespace Memory

theorem setDocuments_setDocuments (m : Memory) (collection : String) (ds es : List Document) :
    (m.setDocuments collection ds).setDocuments collection es = m.setDocuments collection es := by
  simp only [setDocuments, Entries.insert_insert]

/-- All identifiers are labels, and no label stands twice. -/
structure Labelled (ds : List Document) : Prop where
  isLabelled : ∀ d ∈ ds, d.IsLabelled
  nodup : (ds.map Document.label).Nodup

section Updates

variable {ds : List Document} {id id' : String} (modifiers modifiers' : Document)

/-! ### On a list of documents -/

theorem Labelled.changeLabel (h : Labelled ds) (id : String) :
    Labelled (changeLabel id (Modifier.attempt modifiers) ds) := by
  constructor
  · intro d hd
    obtain ⟨e, he, rfl⟩ := List.mem_map.mp hd
    have hlabelled := h.isLabelled e he
    split
    · exact hlabelled.attempt modifiers
    · exact hlabelled
  · have hlabels : (Memory.changeLabel id (Modifier.attempt modifiers) ds).map Document.label =
        ds.map Document.label := by
      rw [Memory.changeLabel, List.map_map]
      refine List.map_congr_left fun d _ => ?_
      show Document.label (if d.label = id then _ else _) = _
      split
      · exact Document.label_attempt modifiers d
      · rfl
    rw [hlabels]
    exact h.nodup

/-- A change under one label is not seen by a search for another one. -/
theorem find?_changeLabel (hne : id ≠ id') :
    ((changeLabel id' (Modifier.attempt modifiers') ds).find? fun d => d.label = id) =
      ds.find? fun d => d.label = id := by
  induction ds with
  | nil => rfl
  | cons d rest ih =>
    rw [changeLabel_cons, List.find?_cons, List.find?_cons, ih]
    by_cases hid : d.label = id'
    · have hold : decide (d.label = id) = false := by
        rw [hid]
        exact decide_eq_false hne.symm
      rw [if_pos hid, Document.label_attempt, hold]
    · rw [if_neg hid]

theorem answerUpdate_changeLabel (hne : id ≠ id') :
    answerUpdate modifiers id (changeLabel id' (Modifier.attempt modifiers') ds) =
      answerUpdate modifiers id ds := by
  rw [answerUpdate, find?_changeLabel modifiers' hne, answerUpdate]

theorem changeLabel_comm (hne : id ≠ id') :
    changeLabel id (Modifier.attempt modifiers) (changeLabel id' (Modifier.attempt modifiers') ds) =
      changeLabel id' (Modifier.attempt modifiers')
        (changeLabel id (Modifier.attempt modifiers) ds) := by
  simp only [changeLabel, List.map_map]
  refine List.map_congr_left fun d _ => ?_
  simp only [Function.comp_apply]
  -- A document has one label only, so at most one of the two updates is about it.
  by_cases hid : d.label = id
  · have hother : d.label ≠ id' := fun h => hne (hid.symm.trans h)
    simp only [if_pos hid, if_neg hother, Document.label_attempt]
  · by_cases hid' : d.label = id'
    · simp only [if_neg hid, if_pos hid', Document.label_attempt]
    · simp only [if_neg hid, if_neg hid']

/-! ### On the store -/

variable {m : Memory} {collection : String} (h : Labelled (m.documents collection))

include h

theorem Labelled.updateOne (id : String) :
    Labelled ((Memory.updateOne collection [(Document.idKey, .str id)] modifiers m).2.documents
      collection) := by
  rw [documents_updateOne collection modifiers id m h.isLabelled h.nodup, if_pos rfl]
  exact h.changeLabel modifiers id

/-- The answer to an update is the same after an update by another label. -/
theorem fst_updateOne_updateOne (hne : id ≠ id') :
    (updateOne collection [(Document.idKey, .str id)] modifiers
      (updateOne collection [(Document.idKey, .str id')] modifiers' m).2).1 =
      (updateOne collection [(Document.idKey, .str id)] modifiers m).1 := by
  have hother := h.updateOne modifiers' id'
  rw [updateOne_label _ _ _ _ hother.isLabelled hother.nodup,
    updateOne_label _ modifiers _ _ h.isLabelled h.nodup,
    documents_updateOne collection modifiers' id' m h.isLabelled h.nodup, if_pos rfl]
  exact answerUpdate_changeLabel modifiers modifiers' hne

/-- The store after two updates in a row, the second one on what the first one left. -/
theorem snd_updateOne_updateOne (hne : id ≠ id') :
    (updateOne collection [(Document.idKey, .str id)] modifiers
      (updateOne collection [(Document.idKey, .str id')] modifiers' m).2).2 =
      match answerUpdate modifiers id (m.documents collection),
        answerUpdate modifiers' id' (m.documents collection) with
      | .error _, .error _ => m.served.served
      | _, _ => m.served.served.setDocuments collection
          (changeLabel id (Modifier.attempt modifiers)
            (changeLabel id' (Modifier.attempt modifiers') (m.documents collection))) := by
  have hother := h.updateOne modifiers' id'
  rw [updateOne_label _ _ _ _ hother.isLabelled hother.nodup,
    documents_updateOne collection modifiers' id' m h.isLabelled h.nodup, if_pos rfl,
    answerUpdate_changeLabel modifiers modifiers' hne,
    updateOne_label _ modifiers' _ _ h.isLabelled h.nodup]
  cases hanswer : answerUpdate modifiers id (m.documents collection) with
  | ok n =>
    cases answerUpdate modifiers' id' (m.documents collection) with
    | ok n' => exact setDocuments_setDocuments m.served.served collection _ _
    | error e' => rfl
  | error e =>
    cases answerUpdate modifiers' id' (m.documents collection) with
    | ok n' =>
      have hfails : answerUpdate modifiers id
          (changeLabel id' (Modifier.attempt modifiers') (m.documents collection)) = .error e :=
        (answerUpdate_changeLabel modifiers modifiers' hne).trans hanswer
      have hsame := changeLabel_of_answerUpdate (h.changeLabel modifiers' id').nodup hfails
      dsimp only
      rw [hsame]
      rfl
    | error e' => rfl

/-- The store comes out the same whichever update is first. -/
theorem snd_updateOne_comm (hne : id ≠ id') :
    (updateOne collection [(Document.idKey, .str id)] modifiers
      (updateOne collection [(Document.idKey, .str id')] modifiers' m).2).2 =
      (updateOne collection [(Document.idKey, .str id')] modifiers'
        (updateOne collection [(Document.idKey, .str id)] modifiers m).2).2 := by
  rw [snd_updateOne_updateOne modifiers modifiers' h hne,
    snd_updateOne_updateOne modifiers' modifiers h hne.symm, changeLabel_comm _ _ hne]
  cases answerUpdate modifiers id (m.documents collection) with
  | ok n => cases answerUpdate modifiers' id' (m.documents collection) <;> rfl
  | error e => cases answerUpdate modifiers' id' (m.documents collection) <;> rfl

end Updates

end Memory

end RecordStore
