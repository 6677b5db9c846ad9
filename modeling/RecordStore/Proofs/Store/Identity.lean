/-
Identifiers in the store in memory, whoever calls it.

Callers of the store may bring any values as identifiers, or none, and any queries and
modifiers.  After every call, each document still has an identifier and no two
documents of a collection have equal ones, where values are compared as JSON values.
This holds whatever identifiers the store makes up, since these are checked like all
others.

* `Memory.Identified` — the invariant;
* `Backend.run` — calls served one after the other, whether they succeed or fail;
* `Memory.identified_append_accept`, `Memory.map_idKey_updateOne` — a batch that is
  accepted clashes with nothing, and an update leaves all identifiers in their places;
* `Memory.identified_run` — the invariant after a run, and what the next call keeps.
-/
import RecordStore.Proofs.Store.Calls

namespace RecordStore

namespace Document

/-- Whether two documents have equal identifiers. -/
def sameId (d e : Document) : Bool := (d.get? idKey).any fun v => (e.get? idKey).any (v == ·)

end Document

namespace Backend

variable {σ : Type}

/-- The state after a call. -/
def after (b : Backend σ) : Call → σ → σ
  | .find collection query options, s => (b.find collection query options s).2
  | .count collection query, s => (b.count collection query s).2
  | .insertMany collection documents, s => (b.insertMany collection documents s).2
  | .updateOne collection query modifiers, s => (b.updateOne collection query modifiers s).2
  | .deleteMany collection query, s => (b.deleteMany collection query s).2

/-- The state after calls, served in their order. -/
def run (b : Backend σ) (calls : List Call) (s : σ) : σ :=
  calls.foldl (fun s call => b.after call s) s

end Backend

namespace Memory

variable {present batch ds es : List Document}

/-! ### The invariant of a collection -/

/-- Every document has an identifier, and no two have equal ones. -/
structure Identified (ds : List Document) : Prop where
  contains : ∀ d ∈ ds, d.contains Document.idKey = true
  distinct : ds.Pairwise fun d e => d.sameId e = false

namespace Identified

theorem nil : Identified [] := ⟨by simp, List.Pairwise.nil⟩

theorem sublist (h : Identified ds) (hes : es.Sublist ds) : Identified es where
  contains e he := h.contains e (hes.subset he)
  distinct := h.distinct.sublist hes

/-- The invariant is about identifiers only. -/
theorem of_map_eq (h : Identified ds)
    (hids : es.map (·.get? Document.idKey) = ds.map (·.get? Document.idKey)) :
    Identified es := by
  have hcontains : ∀ v ∈ ds.map (·.get? Document.idKey), v.isSome = true :=
    List.forall_mem_map.mpr h.contains
  have hdistinct : (ds.map (·.get? Document.idKey)).Pairwise
      fun v w => (v.any fun v => w.any (v == ·)) = false :=
    List.pairwise_map.mpr h.distinct
  rw [← hids] at hcontains hdistinct
  exact ⟨List.forall_mem_map.mp hcontains, List.pairwise_map.mp hdistinct⟩

theorem concat (h : Identified ds) {d : Document} {id : Json}
    (hid : d.get? Document.idKey = some id) (hfree : isTaken ds id = false) :
    Identified (ds ++ [d]) := by
  have hdistinct : ∀ e ∈ ds, e.sameId d = false := by
    intro e he
    have hother := List.any_eq_false.mp hfree e he
    rw [Document.sameId, hid]
    simpa only [Option.any_some, Bool.not_eq_true] using hother
  constructor
  · intro e he
    rcases List.mem_append.mp he with hold | hnew
    · exact h.contains e hold
    · rw [List.mem_singleton.mp hnew, Entries.contains, hid, Option.isSome_some]
  · refine List.pairwise_append.mpr ⟨h.distinct, List.pairwise_singleton _ _, ?_⟩
    intro e he f hf
    rw [List.mem_singleton.mp hf]
    exact hdistinct e he

end Identified

/-! ### Batches -/

theorem exists_idKey_identify (fresh : Nat → String) (madeUp : Nat) (d : Document) :
    ∃ id, (identify fresh madeUp d).1.get? Document.idKey = some id := by
  rw [identify]
  split
  · rename_i hd
    exact Option.isSome_iff_exists.mp hd
  · exact ⟨_, by rw [Entries.get?_insert, if_pos rfl]⟩

/-- The documents accepted stand behind those present without a clash, with those
present and with each other. -/
theorem identified_append_accept {fresh : Nat → String} {madeUp : Nat} {accepted : List Document}
    (h : Identified present) (haccept : (accept fresh present madeUp batch).1 = .ok accepted) :
    Identified (present ++ accepted) := by
  -- Each document accepted is one of those present for the documents after it.
  induction batch generalizing present madeUp accepted with
  | nil =>
    obtain rfl : [] = accepted := Except.ok.inj haccept
    rw [List.append_nil]
    exact h
  | cons d rest ih =>
    obtain ⟨id, hid⟩ := exists_idKey_identify fresh madeUp d
    rw [accept] at haccept
    dsimp only at haccept
    rw [hid, Option.getD_some] at haccept
    cases hfree : isTaken present id with
    | true =>
      rw [hfree, if_pos rfl] at haccept
      exact absurd haccept (by simp)
    | false =>
      rw [hfree, if_neg Bool.false_ne_true] at haccept
      have hd := h.concat hid hfree
      obtain ⟨more, hmore, rfl⟩ := Except.map_eq_ok_iff.mp haccept
      have hrest := ih hd hmore
      rw [List.append_assoc] at hrest
      exact hrest

/-- A batch is answered as it is accepted. -/
theorem fst_insertMany (fresh : Nat → String) (collection : String) (m : Memory) :
    (insertMany fresh collection batch m).1 =
      (accept fresh (m.documents collection) m.madeUp batch).1.mapError
        (.duplicateId collection) := by
  rw [insertMany]
  obtain ⟨outcome, madeUp⟩ := accept fresh (m.documents collection) m.madeUp batch
  cases outcome with
  | error id => rfl
  | ok accepted => rfl

theorem identified_insertMany (fresh : Nat → String) (collection : String) {m : Memory}
    (h : ∀ name, Identified (m.documents name)) (name : String) :
    Identified ((insertMany fresh collection batch m).2.documents name) := by
  rw [documents_insertMany_eq, fst_insertMany]
  cases haccept : (accept fresh (m.documents collection) m.madeUp batch).1 with
  | error id => exact h name
  | ok accepted =>
    show Identified (if collection = name then _ else _)
    split
    · exact identified_append_accept (h collection) haccept
    · exact h name

/-! ### Updates -/

/-- Whatever document is modified, all identifiers stay in their places. -/
theorem map_idKey_updateOne (collection : String) (query modifiers : Document) (m : Memory)
    (name : String) :
    ((updateOne collection query modifiers m).2.documents name).map (·.get? Document.idKey) =
      (m.documents name).map (·.get? Document.idKey) := by
  have hupdated := forall₂_updateOne collection query modifiers m name
  have hids : List.Forall₂ (· = ·) ((m.documents name).map (·.get? Document.idKey))
      (((updateOne collection query modifiers m).2.documents name).map
        (·.get? Document.idKey)) := by
    rw [List.forall₂_map_left_iff, List.forall₂_map_right_iff]
    refine hupdated.imp fun d e hde => ?_
    rcases hde with rfl | happly
    · rfl
    · exact (Modifier.get?_apply_idKey happly).symm
  rw [List.forall₂_eq_eq_eq] at hids
  exact hids.symm

/-! ### Runs -/

/-- A call keeps the invariant in all collections, whether it succeeds or fails. -/
theorem identified_after (fresh : Nat → String) (call : Call) {m : Memory}
    (h : ∀ name, Identified (m.documents name)) (name : String) :
    Identified (((backend fresh).after call m).documents name) := by
  cases call with
  | find collection query options => exact h name
  | count collection query => exact h name
  | insertMany collection documents => exact identified_insertMany fresh collection h name
  | updateOne collection query modifiers =>
    exact (h name).of_map_eq (map_idKey_updateOne collection query modifiers m name)
  | deleteMany collection query =>
    exact (h name).sublist (sublist_deleteMany collection query m name)

theorem identified_of_run (fresh : Nat → String) (calls : List Call) {m : Memory}
    (h : ∀ name, Identified (m.documents name)) (name : String) :
    Identified (((backend fresh).run calls m).documents name) := by
  induction calls generalizing m with
  | nil => exact h name
  | cons call rest ih => exact ih (identified_after fresh call h)

/-- In every state that calls lead to, all documents are identified.  Of what the next
call may be, searching and counting change nothing, a batch is appended as answered or
not at all, an update leaves every identifier in its place, and a removal leaves the
documents that stay in their order. -/
theorem identified_run (fresh : Nat → String) (calls : List Call) :
    let store := backend fresh
    let m := store.run calls {}
    (∀ name, Identified (m.documents name)) ∧
    ∀ collection query name,
      (∀ options, (store.find collection query options m).2.documents name = m.documents name) ∧
      (store.count collection query m).2.documents name = m.documents name ∧
      (∀ batch, (store.insertMany collection batch m).2.documents name =
        match (store.insertMany collection batch m).1 with
        | .ok stored =>
          if collection = name then m.documents collection ++ stored else m.documents name
        | .error _ => m.documents name) ∧
      (∀ modifiers, ((store.updateOne collection query modifiers m).2.documents name).map
          (·.get? Document.idKey) = (m.documents name).map (·.get? Document.idKey)) ∧
      ((store.deleteMany collection query m).2.documents name).Sublist (m.documents name) := by
  intro store m
  have hempty : ∀ name, Identified (documents {} name) := fun _ => Identified.nil
  refine ⟨identified_of_run fresh calls hempty, fun collection query name => ?_⟩
  refine ⟨fun _ => rfl, rfl, fun batch => ?_, fun modifiers => ?_, ?_⟩
  · exact documents_insertMany_eq fresh collection m name
  · exact map_idKey_updateOne collection query modifiers m name
  · exact sublist_deleteMany collection query m name

end Memory

end RecordStore
