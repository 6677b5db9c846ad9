/-
What the calls on the store in memory do to its documents.

A batch of documents that bring identifiers is stored as it is or refused as a whole.
Where the identifiers of all documents are texts, the text is the label of the
document: a batch is stored just if its labels are new, an update finds the document
with the label asked for, and a removal keeps the others.

* `Memory.accept_of_contains` — all of a batch, or nothing;
* `Memory.accept_eq_ok_iff` — when a labelled batch is accepted;
* `Memory.updateOne_label` — an update by label, with its outcome;
* `Memory.selects_removalQuery` — which documents a removal finds.
-/
import RecordStore.Adapter.Remove
import RecordStore.Proofs.Document.Modifier
import RecordStore.Proofs.Entries
import RecordStore.Proofs.Query.ById
import RecordStore.Store.Memory

namespace RecordStore

namespace Document

/-- The identifier of a document as a text. -/
def label (d : Document) : String := ((d.get? idKey).bind Json.idText?).getD ""

/-- The identifier of the document is its label. -/
def IsLabelled (d : Document) : Prop := d.get? idKey = some (.str d.label)

theorem label_eq {d : Document} {id : String} (h : d.get? idKey = some (.str id)) :
    d.label = id := by
  rw [label, h]
  rfl

theorem isLabelled_of_get? {d : Document} {id : String} (h : d.get? idKey = some (.str id)) :
    d.IsLabelled := by
  rw [IsLabelled, label_eq h, h]

theorem IsLabelled.contains {d : Document} (h : d.IsLabelled) : d.contains idKey = true := by
  rw [Entries.contains, h]
  rfl

end Document

namespace Memory

@[simp] theorem documents_served (m : Memory) (name : String) :
    m.served.documents name = m.documents name := rfl

/-- Writing back the documents of a collection changes nothing. -/
theorem ite_documents (m : Memory) (collection name : String) :
    (if collection = name then m.documents collection else m.documents name) =
      m.documents name := by
  split
  · rename_i h
    rw [h]
  · rfl

variable {present batch ds : List Document}

/-! ### Batches -/

theorem identify_of_contains (fresh : Nat → String) (madeUp : Nat) {d : Document}
    (h : d.contains Document.idKey = true) : identify fresh madeUp d = (d, madeUp) := by
  rw [identify, if_pos h]

/-- The first document of a batch, if it brings its identifier. -/
theorem accept_cons_of_contains (fresh : Nat → String) (madeUp : Nat) {d : Document}
    (h : d.contains Document.idKey = true) (rest : List Document) :
    accept fresh present madeUp (d :: rest) =
      let id := (d.get? Document.idKey).getD .null
      if isTaken present id then (.error id, madeUp)
      else ((accept fresh (present ++ [d]) madeUp rest).1.map (d :: ·),
        (accept fresh (present ++ [d]) madeUp rest).2) := by
  rw [accept, identify_of_contains fresh madeUp h]

/-- A batch of documents that bring identifiers is accepted as it is or refused. -/
theorem accept_of_contains (fresh : Nat → String) (present : List Document) (madeUp : Nat)
    (h : ∀ d ∈ batch, d.contains Document.idKey = true) :
    accept fresh present madeUp batch = (.ok batch, madeUp) ∨
      ∃ id, accept fresh present madeUp batch = (.error id, madeUp) := by
  -- `present` grows by each document that is accepted.
  induction batch generalizing present with
  | nil => exact Or.inl rfl
  | cons d rest ih =>
    rw [accept_cons_of_contains fresh madeUp (h d List.mem_cons_self)]
    dsimp only
    split
    · exact Or.inr ⟨_, rfl⟩
    · rcases ih (present ++ [d]) fun e he => h e (List.mem_cons_of_mem _ he) with
        hrest | ⟨id, hrest⟩
      · rw [hrest]
        exact Or.inl rfl
      · rw [hrest]
        exact Or.inr ⟨id, rfl⟩

/-- An identifier that is a text is taken if it is a label. -/
theorem isTaken_str (labelled : ∀ d ∈ ds, d.IsLabelled) (id : String) :
    isTaken ds (.str id) = decide (id ∈ ds.map Document.label) := by
  induction ds with
  | nil => rfl
  | cons d rest ih =>
    have hd : d.get? Document.idKey = some (.str d.label) := labelled d List.mem_cons_self
    have hrest := ih fun e he => labelled e (List.mem_cons_of_mem _ he)
    rw [isTaken] at hrest ⊢
    rw [List.any_cons, hrest, hd, Option.any_some, Json.str_beq_str, List.map_cons,
      ← Bool.decide_coe (d.label == id), ← Bool.decide_or]
    refine decide_eq_decide.mpr ?_
    rw [List.mem_cons, beq_iff_eq, eq_comm]

/-- The labels of a batch are new: they stand once, and none of them is present. -/
def Fits (present batch : List Document) : Prop :=
  (batch.map Document.label).Nodup ∧ ∀ d ∈ batch, d.label ∉ present.map Document.label

instance (present batch : List Document) : Decidable (Fits present batch) :=
  inferInstanceAs (Decidable (_ ∧ _))

theorem fits_cons (d : Document) (rest : List Document) :
    Fits present (d :: rest) ↔
      d.label ∉ present.map Document.label ∧ Fits (present ++ [d]) rest := by
  simp only [Fits, List.map_cons, List.nodup_cons, List.forall_mem_cons, List.map_append,
    List.map_nil, List.mem_append, List.mem_singleton, not_or]
  constructor
  · rintro ⟨⟨hnew, hnodup⟩, habsent, hall⟩
    refine ⟨habsent, hnodup, fun e he => ⟨hall e he, ?_⟩⟩
    intro heq
    exact hnew (heq ▸ List.mem_map_of_mem he)
  · rintro ⟨habsent, hnodup, hall⟩
    refine ⟨⟨?_, hnodup⟩, habsent, fun e he => (hall e he).1⟩
    intro hmem
    obtain ⟨e, he, heq⟩ := List.mem_map.mp hmem
    exact (hall e he).2 heq

/-- A labelled batch is accepted just if its labels are new. -/
theorem accept_eq_ok_iff (fresh : Nat → String) (madeUp : Nat)
    (hpresent : ∀ d ∈ present, d.IsLabelled) (hbatch : ∀ d ∈ batch, d.IsLabelled) :
    accept fresh present madeUp batch = (.ok batch, madeUp) ↔ Fits present batch := by
  induction batch generalizing present with
  | nil => exact iff_of_true rfl ⟨List.nodup_nil, fun _ h => absurd h List.not_mem_nil⟩
  | cons d rest ih =>
    have hd : d.IsLabelled := hbatch d List.mem_cons_self
    have hrest : ∀ e ∈ rest, e.IsLabelled := fun e he => hbatch e (List.mem_cons_of_mem _ he)
    have hmore : ∀ e ∈ present ++ [d], e.IsLabelled := by
      intro e he
      rcases List.mem_append.mp he with he | he
      · exact hpresent e he
      · exact List.mem_singleton.mp he ▸ hd
    rw [accept_cons_of_contains fresh madeUp hd.contains, fits_cons, ← ih hmore hrest, hd]
    dsimp only [Option.getD_some]
    rw [isTaken_str hpresent]
    -- `d` itself counts as present for the documents after it.
    by_cases htaken : d.label ∈ present.map Document.label
    · rw [if_pos (decide_eq_true htaken)]
      exact iff_of_false (by simp) fun h => h.1 htaken
    · rw [if_neg (by simpa using htaken)]
      rcases accept_of_contains fresh (present ++ [d]) madeUp
        (fun e he => (hrest e he).contains) with hok | ⟨id, herror⟩
      · rw [hok]
        exact iff_of_true rfl ⟨htaken, rfl⟩
      · rw [herror]
        exact iff_of_false (by simp [Except.map]) (by simp)

theorem insertMany_of_accept_ok {fresh : Nat → String} {collection : String} {m : Memory}
    (h : accept fresh (m.documents collection) m.madeUp batch = (.ok batch, m.madeUp)) :
    insertMany fresh collection batch m =
      (.ok batch, m.served.setDocuments collection (m.documents collection ++ batch)) := by
  rw [insertMany, h]
  rfl

theorem insertMany_of_accept_error {fresh : Nat → String} {collection : String} {m : Memory}
    {id : Json} (h : accept fresh (m.documents collection) m.madeUp batch = (.error id, m.madeUp)) :
    insertMany fresh collection batch m = (.error (.duplicateId collection id), m.served) := by
  rw [insertMany, h]
  rfl

/-- The store after a batch: the batch stands behind the documents of its collection,
or the call was refused and no document has changed. -/
theorem insertMany_of_contains (fresh : Nat → String) (collection : String) (m : Memory)
    (h : ∀ d ∈ batch, d.contains Document.idKey = true) :
    insertMany fresh collection batch m =
        (.ok batch, m.served.setDocuments collection (m.documents collection ++ batch)) ∨
      ∃ id, insertMany fresh collection batch m =
        (.error (.duplicateId collection id), m.served) := by
  rcases accept_of_contains fresh (m.documents collection) m.madeUp h with hok | ⟨id, herror⟩
  · exact Or.inl (insertMany_of_accept_ok hok)
  · exact Or.inr ⟨id, insertMany_of_accept_error herror⟩

/-- A labelled batch is stored if its labels are new, else no document changes. -/
theorem documents_insertMany (fresh : Nat → String) (collection : String) (m : Memory)
    (hpresent : ∀ d ∈ m.documents collection, d.IsLabelled) (hbatch : ∀ d ∈ batch, d.IsLabelled)
    (name : String) :
    (insertMany fresh collection batch m).2.documents name =
      if collection = name then
        if Fits (m.documents collection) batch then m.documents collection ++ batch
        else m.documents collection
      else m.documents name := by
  have haccept := accept_eq_ok_iff fresh m.madeUp hpresent hbatch
  by_cases hfits : Fits (m.documents collection) batch
  · rw [insertMany_of_accept_ok (haccept.mpr hfits), if_pos hfits]
    exact documents_setDocuments m.served collection name _
  · obtain ⟨id, herror⟩ := (accept_of_contains fresh _ m.madeUp fun d hd =>
      (hbatch d hd).contains).resolve_left (mt haccept.mp hfits)
    rw [insertMany_of_accept_error herror, if_neg hfits, ite_documents, documents_served]

/-! ### Updates -/

/-- The documents with a change of those with a label. -/
def changeLabel (id : String) (change : Document → Document) (ds : List Document) :
    List Document :=
  ds.map fun d => if d.label = id then change d else d

section ChangeLabel

variable {id : String} {change change' : Document → Document} {found : Document}

theorem changeLabel_cons (d : Document) (rest : List Document) :
    changeLabel id change (d :: rest) =
      (if d.label = id then change d else d) :: changeLabel id change rest := rfl

theorem changeLabel_congr (h : ∀ d ∈ ds, d.label = id → change d = change' d) :
    changeLabel id change ds = changeLabel id change' ds := by
  refine List.map_congr_left fun d hd => ?_
  by_cases hid : d.label = id
  · rw [if_pos hid, if_pos hid, h d hd hid]
  · rw [if_neg hid, if_neg hid]

theorem changeLabel_eq_self (h : ∀ d ∈ ds, d.label = id → change d = d) :
    changeLabel id change ds = ds :=
  calc changeLabel id change ds = changeLabel id (fun d => d) ds := changeLabel_congr h
    _ = ds := by simp only [changeLabel, ite_self, List.map_id']

/-- Where labels stand once, the document found is the only one with its label. -/
theorem eq_of_find?_label (nodup : (ds.map Document.label).Nodup)
    (hfound : (ds.find? fun d => d.label = id) = some found) {d : Document} (hd : d ∈ ds)
    (hid : d.label = id) : d = found := by
  have hlabel : found.label = id := by simpa using List.find?_some hfound
  exact List.inj_on_of_nodup_map nodup hd (List.mem_of_find?_eq_some hfound)
    (hid.trans hlabel.symm)

end ChangeLabel

/-- An update by label finds the document with that label and no other one. -/
theorem modifyFirst_label (modifiers : Document) (id : String)
    (labelled : ∀ d ∈ ds, d.IsLabelled) (nodup : (ds.map Document.label).Nodup) :
    modifyFirst [(Document.idKey, .str id)] modifiers ds =
      match ds.find? fun d => d.label = id with
      | none => .ok (ds, 0)
      | some found =>
        (Modifier.apply modifiers found).map fun d => (changeLabel id (fun _ => d) ds, 1) := by
  induction ds with
  | nil => rfl
  | cons d rest ih =>
    have hd : d.IsLabelled := labelled d List.mem_cons_self
    rw [List.map_cons, List.nodup_cons] at nodup
    rw [modifyFirst, Query.selects_id hd, List.find?_cons]
    by_cases hid : d.label = id
    -- Found: the label stands nowhere else, so the rest is not changed.
    · have hrest : ∀ change, changeLabel id change rest = rest := by
        intro change
        refine changeLabel_eq_self fun e he heq => ?_
        exact absurd (hid.trans heq.symm ▸ List.mem_map_of_mem he) nodup.1
      rw [if_pos (decide_eq_true hid), decide_eq_true hid]
      simp only [changeLabel_cons, if_pos hid, hrest]
    · rw [if_neg (by simpa using hid), decide_eq_false hid,
        ih (fun e he => labelled e (List.mem_cons_of_mem _ he)) nodup.2]
      cases rest.find? fun e => e.label = id with
      | none => rfl
      | some found =>
        simp only [changeLabel_cons, if_neg hid]
        cases Modifier.apply modifiers found <;> rfl

/-- The answer to an update by label: whether there is such a document, if the modifier
can be applied to it. -/
def answerUpdate (modifiers : Document) (id : String) (ds : List Document) :
    Except StoreError Nat :=
  match ds.find? fun d => d.label = id with
  | none => .ok 0
  | some found =>
    match Modifier.apply modifiers found with
    | .ok _ => .ok 1
    | .error e => .error (.badModifier e)

/-- Where labels stand once, only the document found can be changed. -/
theorem changeLabel_of_find? {id : String} {found : Document} {change change' : Document → Document}
    (nodup : (ds.map Document.label).Nodup)
    (hfound : (ds.find? fun d => d.label = id) = some found) (h : change found = change' found) :
    changeLabel id change ds = changeLabel id change' ds := by
  refine changeLabel_congr fun d hd hid => ?_
  rw [eq_of_find?_label nodup hfound hd hid, h]

theorem changeLabel_of_find?_eq_none {id : String} {change : Document → Document}
    (h : (ds.find? fun d => d.label = id) = none) : changeLabel id change ds = ds := by
  refine changeLabel_eq_self fun d hd hid => ?_
  exact absurd hid (by simpa using List.find?_eq_none.mp h d hd)

/-- An update by label with its outcome. -/
theorem updateOne_label (collection : String) (modifiers : Document) (id : String) (m : Memory)
    (labelled : ∀ d ∈ m.documents collection, d.IsLabelled)
    (nodup : ((m.documents collection).map Document.label).Nodup) :
    updateOne collection [(Document.idKey, .str id)] modifiers m =
      (answerUpdate modifiers id (m.documents collection),
        match answerUpdate modifiers id (m.documents collection) with
        | .ok _ => m.served.setDocuments collection
            (changeLabel id (Modifier.attempt modifiers) (m.documents collection))
        | .error _ => m.served) := by
  rw [updateOne, modifyFirst_label modifiers id labelled nodup, answerUpdate]
  cases hfind : (m.documents collection).find? fun d => d.label = id with
  | none => rw [changeLabel_of_find?_eq_none hfind]
  | some found =>
    dsimp only
    cases happly : Modifier.apply modifiers found with
    | error e => rfl
    | ok d' =>
      have hattempt : Modifier.attempt modifiers found = d' := by rw [Modifier.attempt, happly]
      have hsame : changeLabel id (Modifier.attempt modifiers) (m.documents collection) =
          changeLabel id (fun _ => d') (m.documents collection) :=
        changeLabel_of_find? nodup hfind hattempt
      rw [hsame]
      rfl

/-- A modifier that fails leaves the document found as it is. -/
theorem changeLabel_of_answerUpdate {modifiers : Document} {id : String} {e : StoreError}
    (nodup : (ds.map Document.label).Nodup) (h : answerUpdate modifiers id ds = .error e) :
    changeLabel id (Modifier.attempt modifiers) ds = ds := by
  rw [answerUpdate] at h
  cases hfind : ds.find? fun d => d.label = id with
  | none => exact changeLabel_of_find?_eq_none hfind
  | some found =>
    rw [hfind] at h
    dsimp only at h
    cases happly : Modifier.apply modifiers found with
    | ok d' =>
      rw [happly] at h
      exact absurd h (by simp)
    | error cause =>
      have hattempt : Modifier.attempt modifiers found = found := by
        rw [Modifier.attempt, happly]
      refine changeLabel_eq_self fun d hd hid => ?_
      rw [eq_of_find?_label nodup hfind hd hid, hattempt]

/-- The documents after an update by label, whether there is a document to modify or
not, and whether the modifier fails or not. -/
theorem documents_updateOne (collection : String) (modifiers : Document) (id : String)
    (m : Memory) (labelled : ∀ d ∈ m.documents collection, d.IsLabelled)
    (nodup : ((m.documents collection).map Document.label).Nodup) (name : String) :
    (updateOne collection [(Document.idKey, .str id)] modifiers m).2.documents name =
      if collection = name then changeLabel id (Modifier.attempt modifiers) (m.documents collection)
      else m.documents name := by
  rw [updateOne_label collection modifiers id m labelled nodup]
  cases hanswer : answerUpdate modifiers id (m.documents collection) with
  | ok n => exact documents_setDocuments m.served collection name _
  | error e =>
    rw [changeLabel_of_answerUpdate nodup hanswer, ite_documents]
    rfl

/-! ### Removals -/

/-- A removal finds the documents whose labels it names, or all. -/
theorem selects_removalQuery {d : Document} (h : d.IsLabelled) (ids : Option (List String)) :
    Query.selects d (Adapter.removalQuery ids) = ids.all fun ids => decide (d.label ∈ ids) := by
  cases ids with
  | none => rfl
  | some ids => exact Query.selects_restrictToIds_nil h ids

/-- The documents after a removal: in the collection, those that it does not name. -/
theorem documents_deleteMany (collection : String) (ids : Option (List String)) (m : Memory)
    (labelled : ∀ d ∈ m.documents collection, d.IsLabelled) (name : String) :
    (deleteMany collection (Adapter.removalQuery ids) m).2.documents name =
      if collection = name then
        (m.documents collection).filter fun d => !ids.all fun ids => decide (d.label ∈ ids)
      else m.documents name := by
  have hkept : ((m.documents collection).filter fun d =>
      !Query.selects d (Adapter.removalQuery ids)) =
      (m.documents collection).filter fun d => !ids.all fun ids => decide (d.label ∈ ids) :=
    List.filter_congr fun d hd => by rw [selects_removalQuery (labelled d hd)]
  rw [deleteMany, hkept]
  exact documents_setDocuments m.served collection name _

end Memory

end RecordStore
