/-
How many documents a store in memory holds.

The documents of a store are counted over all collections that it has.  A name under which
there is no collection has no documents, so any larger set of names gives the same count,
and two stores can be counted over the same names.  What a call does to the size then
follows from what it does to the documents of one collection.

* `Memory.size` — the number of documents in all collections together;
* `Memory.size_add_length` — two stores that differ in one collection;
* `Memory.size_insertMany`, `Memory.size_updateOne`, `Memory.size_deleteMany` — the size
  after a batch, an update and a removal, by what the call answers.
-/
import Mathlib.Algebra.BigOperators.Group.Finset.Basic
import RecordStore.Proofs.Store.Calls

open scoped BigOperators

namespace RecordStore.Memory

/-- The number of documents in all collections together. -/
def size (m : Memory) : Nat := ∑ name ∈ m.collections.keys.toFinset, (m.documents name).length

theorem size_empty : ({} : Memory).size = 0 := Finset.sum_empty

variable {m m' : Memory} {collection : String}

theorem documents_eq_nil_of_notMem {name : String} (h : name ∉ m.collections.keys.toFinset) :
    m.documents name = [] := by
  rw [List.mem_toFinset, ← Entries.get?_eq_none_iff] at h
  rw [documents, h]
  rfl

/-- Names without a collection count for nothing. -/
theorem size_eq_sum {names : Finset String} (h : m.collections.keys.toFinset ⊆ names) :
    m.size = ∑ name ∈ names, (m.documents name).length := by
  refine Finset.sum_subset h fun name _ hname => ?_
  rw [documents_eq_nil_of_notMem hname]
  rfl

/-- Two stores that differ in one collection differ in size by the documents of that one. -/
theorem size_add_length (h : ∀ name, collection ≠ name → m'.documents name = m.documents name) :
    m'.size + (m.documents collection).length = m.size + (m'.documents collection).length := by
  -- Both are counted over one set of names, which has the collection in it.
  let names := insert collection (m.collections.keys.toFinset ∪ m'.collections.keys.toFinset)
  have hm : m.collections.keys.toFinset ⊆ names :=
    Finset.subset_union_left.trans (Finset.subset_insert _ _)
  have hm' : m'.collections.keys.toFinset ⊆ names :=
    Finset.subset_union_right.trans (Finset.subset_insert _ _)
  have hrest : ∑ name ∈ names.erase collection, (m'.documents name).length =
      ∑ name ∈ names.erase collection, (m.documents name).length := by
    refine Finset.sum_congr rfl fun name hname => ?_
    rw [h name (Finset.ne_of_mem_erase hname).symm]
  have hmem : collection ∈ names := Finset.mem_insert_self _ _
  rw [size_eq_sum hm, size_eq_sum hm', ← Finset.add_sum_erase names _ hmem,
    ← Finset.add_sum_erase names (fun name => (m.documents name).length) hmem, hrest]
  omega

/-- Stores with collections of the same lengths have the same size. -/
theorem size_eq_of_length_eq
    (h : ∀ name, (m'.documents name).length = (m.documents name).length) : m'.size = m.size := by
  let names := m.collections.keys.toFinset ∪ m'.collections.keys.toFinset
  have hm : m.collections.keys.toFinset ⊆ names := Finset.subset_union_left
  have hm' : m'.collections.keys.toFinset ⊆ names := Finset.subset_union_right
  rw [size_eq_sum hm, size_eq_sum hm']
  exact Finset.sum_congr rfl fun name _ => h name

/-! ### Calls -/

variable (m) (collection)

/-- A batch is accepted document by document. -/
theorem length_of_accept {fresh : Nat → String} {present batch accepted : List Document}
    {madeUp : Nat} (h : (accept fresh present madeUp batch).1 = .ok accepted) :
    accepted.length = batch.length := by
  induction batch generalizing present madeUp accepted with
  | nil =>
    obtain rfl : [] = accepted := Except.ok.inj h
    rfl
  | cons d rest ih =>
    rw [accept] at h
    dsimp only at h
    split at h
    · exact absurd h (by simp)
    · obtain ⟨accepted', hrest, rfl⟩ := Except.map_eq_ok_iff.mp h
      rw [List.length_cons, List.length_cons, ih hrest]

/-- A batch is refused and adds nothing, or it adds as many documents as it has, which are
those that the call answers. -/
theorem size_insertMany (fresh : Nat → String) (batch : List Document) :
    (∃ e m', insertMany fresh collection batch m = (.error e, m') ∧ m'.size = m.size) ∨
      ∃ stored m', insertMany fresh collection batch m = (.ok stored, m') ∧
        stored.length = batch.length ∧ m'.size = m.size + stored.length := by
  have hdocuments := @documents_insertMany_eq batch fresh collection m
  rw [insertMany] at hdocuments ⊢
  cases haccepted : (accept fresh (m.documents collection) m.madeUp batch).1 with
  | error id =>
    simp only [haccepted] at hdocuments ⊢
    exact Or.inl ⟨_, _, rfl, size_eq_of_length_eq fun name => by rw [hdocuments]⟩
  | ok stored =>
    simp only [haccepted] at hdocuments ⊢
    refine Or.inr ⟨stored, _, rfl, length_of_accept haccepted, ?_⟩
    have hsize := size_add_length fun name hname => (hdocuments name).trans (if_neg hname)
    rw [hdocuments, if_pos rfl, List.length_append] at hsize
    omega

/-- An update neither adds documents nor takes any away. -/
theorem size_updateOne (query modifiers : Document) :
    (updateOne collection query modifiers m).2.size = m.size :=
  size_eq_of_length_eq fun name =>
    (forall₂_updateOne collection query modifiers m name).length_eq.symm

/-- A removal answers how many documents it has taken away. -/
theorem size_deleteMany (query : Document) :
    ∃ removed m', deleteMany collection query m = (.ok removed, m') ∧
      m'.size + removed = m.size := by
  let kept := (m.documents collection).filter fun d => !Query.selects d query
  have hkept : (deleteMany collection query m).2.documents collection = kept := by
    show (m.served.setDocuments collection kept).documents collection = kept
    rw [documents_setDocuments, if_pos rfl]
  have hother : ∀ name, collection ≠ name →
      (deleteMany collection query m).2.documents name = m.documents name := by
    intro name hname
    show (m.served.setDocuments collection kept).documents name = m.documents name
    rw [documents_setDocuments, if_neg hname, documents_served]
  have hsize := size_add_length hother
  have hle : kept.length ≤ (m.documents collection).length := List.length_filter_le _ _
  rw [hkept] at hsize
  refine ⟨(m.documents collection).length - kept.length, _, rfl, ?_⟩
  show (deleteMany collection query m).2.size + _ = m.size
  omega

end RecordStore.Memory
