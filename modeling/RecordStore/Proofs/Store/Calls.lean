/-
What the calls on the store in memory do, whatever they are asked.

Nothing is assumed here of the documents, the queries or the modifiers.  A search gives
projections of documents that are there, a batch stands behind the documents of its
collection or changes none, an update leaves each document in its place as it is or
modified, and a removal only takes documents out.

* `Memory.mem_page`, `Memory.page_default` — where the documents of a page come from;
* `Memory.documents_insertMany_eq`, `Memory.forall₂_updateOne`,
  `Memory.sublist_deleteMany` — the documents after a batch, an update and a removal.
-/
import Mathlib.Data.List.Forall2
import RecordStore.Proofs.Document.Sort
import RecordStore.Proofs.Store.Memory

namespace RecordStore

namespace Memory

variable {batch ds es : List Document}

/-! ### Searches -/

/-- A page holds projections of the documents that it is cut from. -/
theorem mem_page {options : FindOptions} {d : Document} (h : d ∈ page options ds) :
    ∃ e ∈ ds, Document.project options.projection e = d := by
  have hsorted : ∀ e ∈ (Document.sort options.sort ds).drop (options.skip.getD 0), e ∈ ds :=
    fun e he => (Document.perm_sort options.sort ds).subset (List.drop_subset _ _ he)
  obtain ⟨e, he, hd⟩ := List.mem_map.mp h
  refine ⟨e, hsorted e ?_, hd⟩
  split at he
  · exact List.take_subset _ _ he
  · exact he

/-- By default a page is all there is. -/
theorem page_default (ds : List Document) : page {} ds = ds := by
  show (Document.sort [] ds).map (Document.project []) = ds
  rw [Document.sort_nil]
  exact List.map_id ds

/-! ### Batches -/

/-- A call that fails adds no document, and one that succeeds adds those it answers. -/
theorem documents_insertMany_eq (fresh : Nat → String) (collection : String) (m : Memory)
    (name : String) :
    (insertMany fresh collection batch m).2.documents name =
      match (insertMany fresh collection batch m).1 with
      | .ok stored =>
        if collection = name then m.documents collection ++ stored else m.documents name
      | .error _ => m.documents name := by
  rw [insertMany]
  obtain ⟨outcome, madeUp⟩ := accept fresh (m.documents collection) m.madeUp batch
  cases outcome with
  | error id => rfl
  | ok accepted => exact documents_setDocuments _ collection name _

/-! ### Updates -/

section Updates

variable (collection : String) (query modifiers : Document) (m : Memory) (name : String)

/-- The document in the place of another one after an update: the same, or what the
modifier makes of it. -/
def Updated (modifiers d e : Document) : Prop := e = d ∨ Modifier.apply modifiers d = .ok e

theorem Updated.refl (modifiers d : Document) : Updated modifiers d d := Or.inl rfl

theorem forall₂_modifyFirst {query modifiers : Document} {n : Nat}
    (h : modifyFirst query modifiers ds = .ok (es, n)) :
    List.Forall₂ (Updated modifiers) ds es := by
  induction ds generalizing es n with
  | nil =>
    obtain ⟨rfl, -⟩ := Prod.mk.inj (Except.ok.inj h)
    exact .nil
  | cons d rest ih =>
    rw [modifyFirst] at h
    split at h
    · obtain ⟨d', happly, hes⟩ := Except.map_eq_ok_iff.mp h
      obtain ⟨rfl, -⟩ := Prod.mk.inj hes
      exact .cons (Or.inr happly) (List.forall₂_same.mpr fun e _ => Updated.refl modifiers e)
    · obtain ⟨⟨rest', n'⟩, hrest, hes⟩ := Except.map_eq_ok_iff.mp h
      obtain ⟨rfl, -⟩ := Prod.mk.inj hes
      exact .cons (Updated.refl modifiers d) (ih hrest)

/-- An update leaves every document in its place, modified or not. -/
theorem forall₂_updateOne :
    List.Forall₂ (Updated modifiers) (m.documents name)
      ((updateOne collection query modifiers m).2.documents name) := by
  have hsame : List.Forall₂ (Updated modifiers) (m.documents name) (m.documents name) :=
    List.forall₂_same.mpr fun d _ => Updated.refl modifiers d
  rw [updateOne]
  cases hmodify : modifyFirst query modifiers (m.documents collection) with
  | error e => exact hsame
  | ok result =>
    obtain ⟨es, n⟩ := result
    dsimp only
    rw [documents_setDocuments, documents_served]
    split
    · rename_i hname
      exact hname ▸ forall₂_modifyFirst hmodify
    · exact hsame

theorem documents_updateOne_of_ne {collection name : String} (h : collection ≠ name) :
    (updateOne collection query modifiers m).2.documents name = m.documents name := by
  rw [updateOne]
  split
  · rw [documents_setDocuments, if_neg h, documents_served]
  · rfl

/-- What the modifier keeps, an update keeps for all documents of a collection. -/
theorem forall_mem_updateOne {P : Document → Prop}
    (hkeeps : ∀ d e, P d → Modifier.apply modifiers d = .ok e → P e)
    (h : ∀ d ∈ m.documents name, P d) :
    ∀ e ∈ (updateOne collection query modifiers m).2.documents name, P e := by
  have hpairs := (List.forall₂_and_left _ _).mpr
    ⟨h, forall₂_updateOne collection query modifiers m name⟩
  have hkept : List.Forall₂ (fun e d => P e ∧ Updated modifiers d e)
      ((updateOne collection query modifiers m).2.documents name) (m.documents name) := by
    refine (hpairs.imp fun d e ⟨hd, hupdated⟩ => ⟨?_, hupdated⟩).flip
    rcases hupdated with rfl | happly
    · exact hd
    · exact hkeeps d e hd happly
  exact ((List.forall₂_and_left _ _).mp hkept).1

end Updates

/-! ### Removals -/

theorem sublist_deleteMany (collection : String) (query : Document) (m : Memory)
    (name : String) :
    ((deleteMany collection query m).2.documents name).Sublist (m.documents name) := by
  show (documents (setDocuments _ _ _) name).Sublist _
  rw [documents_setDocuments, documents_served]
  split
  · rename_i hname
    rw [hname]
    exact List.filter_sublist
  · exact List.Sublist.refl _

end Memory

end RecordStore
