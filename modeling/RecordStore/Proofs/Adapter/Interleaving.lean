/-
Updates that are under way together.

The updates of one call are all handed to the store at once, which serves them one at a
time in an order of its own; each outcome goes into the slot of its update, and the call
is answered from the slots, in the order of its list.  Updates of different records do
not disturb each other, so any two of them may be served in either order, and with them
all orders lead to the same slots and the same state.

* `Adapter.serveInOrder`, `Adapter.mutateInOrder` — a call served in a given order;
* `Adapter.mutate_of_matched`, `Adapter.mutate_of_failed` — the answer to a call;
* `Adapter.serveAt_comm` — two updates in either order;
* `Adapter.foldl_serveAt_perm` — all updates in any order;
* `Adapter.mutate_inOrder` — the call does not depend on the order.
-/
import RecordStore.Proofs.Adapter.Reachable

namespace RecordStore.Adapter

variable {σ : Type}

/-! ### Serving in a given order -/

/-- The outcomes of the updates of a call, as far as they have been served. -/
abbrev Slots := List (Option (Except StoreError Nat))

/-- Serves an update and puts its outcome into the slot at its place. -/
def serveAt (a : Adapter σ) (collection : String) (p : Slots × State σ) (job : Update × Nat) :
    Slots × State σ :=
  let (outcome, s) := a.applyUpdate collection job.1 p.2
  (p.1.set job.2 (some outcome), s)

theorem serveAt_eq (a : Adapter σ) (collection : String) (p : Slots × State σ)
    (job : Update × Nat) :
    a.serveAt collection p job =
      (p.1.set job.2 (some (a.applyUpdate collection job.1 p.2).1),
        (a.applyUpdate collection job.1 p.2).2) := rfl

/-- Serves updates of a list in an order that gives each with its place in the list. -/
def serveInOrder (a : Adapter σ) (collection : String) (updates : List Update)
    (order : List (Update × Nat)) (s : State σ) : Slots × State σ :=
  order.foldl (a.serveAt collection) (updates.map fun _ => none, s)

/-- Applies updates to records of a type, in the order in which the store serves them. -/
def mutateInOrder (a : Adapter σ) (type : String) (updates : List Update)
    (order : List (Update × Nat)) (s : State σ) : Outcome AdapterError (State σ) Nat :=
  match a.schema.type? type with
  | none => (.error (.unknownType type), s)
  | some _ =>
    let (slots, s) := a.serveInOrder (a.collection type) updates order s
    settle type (a.collection type) (slots.filterMap id) s

/-- In the order of the list the slots fill from the front. -/
theorem foldl_serveAt_zipIdx (a : Adapter σ) (collection : String) (updates : List Update)
    (done : List (Except StoreError Nat)) (s : State σ) :
    (updates.zipIdx done.length).foldl (a.serveAt collection)
        (done.map some ++ updates.map fun _ => none, s) =
      ((done ++ (a.applyUpdates collection updates s).1).map some,
        (a.applyUpdates collection updates s).2) := by
  induction updates generalizing done s with
  | nil =>
    rw [applyUpdates, List.append_nil, List.map_nil, List.append_nil]
    rfl
  | cons u rest ih =>
    have hset : (done.map some ++ (u :: rest).map fun _ => none).set done.length
        (some (a.applyUpdate collection u s).1) =
        (done ++ [(a.applyUpdate collection u s).1]).map some ++ rest.map fun _ => none := by
      rw [List.set_append_right _ _ (by simp), List.length_map, Nat.sub_self, List.map_append,
        List.append_assoc]
      rfl
    have hrest := ih (done ++ [(a.applyUpdate collection u s).1]) (a.applyUpdate collection u s).2
    rw [List.length_append, List.length_singleton, List.append_assoc] at hrest
    rw [List.zipIdx_cons, List.foldl_cons, serveAt_eq, hset]
    exact hrest

/-! ### The answer to updates -/

/-- Updates that did not fail only add to the sum. -/
theorem foldlM_addMatched_append {sum : Nat} (hsum : sum < 2 ^ 64) (counts : List Nat)
    (rest : List (Except StoreError Nat)) :
    (counts.map Except.ok ++ rest).foldlM addMatched sum =
      rest.foldlM addMatched ((sum + counts.sum) % 2 ^ 64) := by
  induction counts generalizing sum with
  | nil => rw [List.map_nil, List.nil_append, List.sum_nil, Nat.add_zero, Nat.mod_eq_of_lt hsum]
  | cons n more ih =>
    show (more.map Except.ok ++ rest).foldlM addMatched ((sum + n) % 2 ^ 64) = _
    rw [ih (Nat.mod_lt _ (by decide)), List.sum_cons, Nat.mod_add_mod, Nat.add_assoc]

section Answer

variable {a : Adapter σ} {type : String} {t : RecordType} (htype : a.schema.type? type = some t)
  {updates : List Update} {s : State σ}

include htype

theorem fst_mutate :
    (a.mutate type updates s).1 =
      (total (a.applyUpdates (a.collection type) updates s).1).mapError .backend := by
  rw [mutate, htype]
  show (settle type _ (a.applyUpdates (a.collection type) updates s).1 _).1 = _
  rw [settle]
  cases total (a.applyUpdates (a.collection type) updates s).1 with
  | error e => rfl
  | ok matched => rfl

/-- If no update fails, the answer is the sum of what they have found. -/
theorem mutate_of_matched {counts : List Nat}
    (h : (a.applyUpdates (a.collection type) updates s).1 = counts.map .ok) :
    (a.mutate type updates s).1 = .ok (counts.sum % 2 ^ 64) := by
  have htotal := foldlM_addMatched_append (Nat.two_pow_pos 64) counts []
  rw [List.append_nil, Nat.zero_add] at htotal
  rw [fst_mutate htype, h, total, htotal]
  rfl

/-- If an update fails, the answer is the first failure in the order of the list. -/
theorem mutate_of_failed {before : List Nat} {e : StoreError}
    {after : List (Except StoreError Nat)}
    (h : (a.applyUpdates (a.collection type) updates s).1 = before.map .ok ++ .error e :: after) :
    (a.mutate type updates s).1 = .error (.backend e) := by
  rw [fst_mutate htype, h, total, foldlM_addMatched_append (Nat.two_pow_pos 64)]
  rfl

end Answer

/-! ### Any two updates -/

section Interchange

variable (a : Adapter σ) (collection : String) {u : Update}

theorem applyUpdate_of_empty (h : u.modifiers.isEmpty = true) (s : State σ) :
    a.applyUpdate collection u s = (.ok 0, s.count .shortCircuited) := by
  rw [applyUpdate, if_pos h]

theorem applyUpdate_of_modifiers (h : ¬u.modifiers.isEmpty = true) (s : State σ) :
    a.applyUpdate collection u s =
      ((a.backend.updateOne collection [(Document.idKey, .str u.id)] u.modifiers s.store).1,
        { s with store := (a.backend.updateOne collection [(Document.idKey, .str u.id)]
            u.modifiers s.store).2 }) := by
  rw [applyUpdate, if_neg h]

end Interchange

variable (schema : Schema) (config : Config) (fresh : Nat → String) (collection : String)
  {s : State Memory} {u v : Update}

theorem labelled_applyUpdate (h : Memory.Labelled (s.store.documents collection)) (u : Update) :
    Memory.Labelled (((inMemory schema config fresh).applyUpdate collection u s).2.store.documents
      collection) := by
  by_cases hu : u.modifiers.isEmpty = true
  · rw [applyUpdate_of_empty _ _ hu]
    exact h
  · rw [applyUpdate_of_modifiers _ _ hu]
    exact h.updateOne u.modifiers u.id

/-- An update has the same outcome after an update of another record, and both lead to
the same state in either order. -/
theorem applyUpdate_comm (h : Memory.Labelled (s.store.documents collection))
    (hne : u.id ≠ v.id) :
    let apply := (inMemory schema config fresh).applyUpdate collection
    (apply u (apply v s).2).1 = (apply u s).1 ∧
      (apply u (apply v s).2).2 = (apply v (apply u s).2).2 := by
  intro apply
  -- An update that asks nothing only counts, and has no part in what the other one does.
  by_cases hu : u.modifiers.isEmpty = true
  · have hcounted : ∀ s, apply u s = _ := applyUpdate_of_empty _ collection hu
    by_cases hv : v.modifiers.isEmpty = true
    · have hcounted' : ∀ s, apply v s = _ := applyUpdate_of_empty _ collection hv
      simp only [hcounted, hcounted', and_self]
    · have happlied : ∀ s, apply v s = _ := applyUpdate_of_modifiers _ collection hv
      rw [hcounted, hcounted, happlied, happlied]
      exact ⟨rfl, rfl⟩
  · have happlied : ∀ s, apply u s = _ := applyUpdate_of_modifiers _ collection hu
    by_cases hv : v.modifiers.isEmpty = true
    · have hcounted : ∀ s, apply v s = _ := applyUpdate_of_empty _ collection hv
      rw [happlied, happlied, hcounted, hcounted]
      exact ⟨rfl, rfl⟩
    · have happlied' : ∀ s, apply v s = _ := applyUpdate_of_modifiers _ collection hv
      rw [happlied, happlied, happlied', happlied']
      refine ⟨Memory.fst_updateOne_updateOne u.modifiers v.modifiers h hne, ?_⟩
      exact congrArg (fun store => { s with store })
        (Memory.snd_updateOne_comm u.modifiers v.modifiers h hne)

/-! ### Any order -/

/-- Two updates that are not about the same record, with slots of their own. -/
def Apart (job other : Update × Nat) : Prop := job.1.id ≠ other.1.id ∧ job.2 ≠ other.2

theorem Apart.symm {job other : Update × Nat} (h : Apart job other) : Apart other job :=
  ⟨h.1.symm, h.2.symm⟩

theorem serveAt_comm {p : Slots × State Memory} {job other : Update × Nat}
    (h : Memory.Labelled (p.2.store.documents collection)) (hapart : Apart job other) :
    let serve := (inMemory schema config fresh).serveAt collection
    serve (serve p job) other = serve (serve p other) job := by
  intro serve
  obtain ⟨houtcome, hstate⟩ := applyUpdate_comm schema config fresh collection h hapart.1
  obtain ⟨houtcome', -⟩ := applyUpdate_comm schema config fresh collection h hapart.1.symm
  simp only [serve, serveAt_eq, houtcome, houtcome', hstate]
  rw [List.set_comm _ _ hapart.2]

theorem foldl_serveAt_perm {order order' : List (Update × Nat)} (hperm : order.Perm order')
    (hapart : order.Pairwise Apart) {p : Slots × State Memory}
    (h : Memory.Labelled (p.2.store.documents collection)) :
    order.foldl ((inMemory schema config fresh).serveAt collection) p =
      order'.foldl ((inMemory schema config fresh).serveAt collection) p := by
  induction hperm generalizing p with
  | nil => rfl
  | cons job _ ih =>
    have hserved := labelled_applyUpdate schema config fresh collection h job.1
    exact ih (List.pairwise_cons.mp hapart).2 hserved
  | swap job other rest =>
    have hne : Apart other job := (List.pairwise_cons.mp hapart).1 job List.mem_cons_self
    rw [List.foldl_cons, List.foldl_cons, List.foldl_cons, List.foldl_cons,
      serveAt_comm schema config fresh collection h hne]
  | trans hfirst _ ih ih' =>
    have hmiddle := (hfirst.pairwise_iff Apart.symm).mp hapart
    exact (ih hapart h).trans (ih' hmiddle h)

theorem pairwise_apart_zipIdx {updates : List Update} (hids : (updates.map Update.id).Nodup) :
    updates.zipIdx.Pairwise Apart := by
  have hrecords : updates.zipIdx.Pairwise fun job other => job.1.id ≠ other.1.id := by
    rw [← List.zipIdx_map_fst 0 updates, List.map_map] at hids
    exact List.pairwise_map.mp hids
  have hplaces : updates.zipIdx.Pairwise fun job other => job.2 ≠ other.2 := by
    refine List.pairwise_map.mp ?_
    rw [List.zipIdx_map_snd]
    exact List.nodup_range' 1
  exact hrecords.and hplaces

/-- The updates of a call, if no two are for the same record, may be served in any order:
all of them have the outcomes, the state and the answer of the order of the list.  The answer
is the sum of what the updates have found or, if one fails, the first failure in the order of
the list. -/
theorem mutate_inOrder (hreachable : Reachable s.store) (type : String) {updates : List Update}
    (hids : (updates.map Update.id).Nodup) {order : List (Update × Nat)}
    (horder : order.Perm updates.zipIdx) :
    let a := inMemory schema config fresh
    (∀ collection, a.serveInOrder collection updates order s =
      ((a.applyUpdates collection updates s).1.map some,
        (a.applyUpdates collection updates s).2)) ∧
    a.mutateInOrder type updates order s = a.mutate type updates s ∧
    ∀ t, schema.type? type = some t →
      (∀ counts : List Nat, (a.applyUpdates (a.collection type) updates s).1 = counts.map .ok →
        (a.mutate type updates s).1 = .ok (counts.sum % 2 ^ 64)) ∧
      ∀ (before : List Nat) e after,
        (a.applyUpdates (a.collection type) updates s).1 =
          before.map .ok ++ .error e :: after →
        (a.mutate type updates s).1 = .error (.backend e) := by
  intro a
  have hserved : ∀ collection, a.serveInOrder collection updates order s =
      ((a.applyUpdates collection updates s).1.map some,
        (a.applyUpdates collection updates s).2) := by
    intro collection
    have hapart := (horder.pairwise_iff Apart.symm).mpr (pairwise_apart_zipIdx hids)
    rw [serveInOrder, foldl_serveAt_perm schema config fresh collection horder hapart
      (hreachable.labelled collection)]
    exact foldl_serveAt_zipIdx a collection updates [] s
  refine ⟨hserved, ?_, fun t htype =>
    ⟨fun counts => mutate_of_matched htype, fun before e after => mutate_of_failed htype⟩⟩
  rw [mutateInOrder, mutate]
  cases a.schema.type? type with
  | none => rfl
  | some t =>
    dsimp only
    have houtcomes : ∀ outcomes : List (Except StoreError Nat),
        (outcomes.map some).filterMap id = outcomes := by
      intro outcomes
      rw [List.filterMap_map]
      exact List.filterMap_some
    rw [hserved, houtcomes]

/-- Four updates, served last to first: one fails, one finds its record, one finds none,
and one asks nothing. -/
theorem mutate_inOrder_reversed :
    let user : RecordType :=
      { name := "user", fields := [{ name := "name" }]
        nodup := by decide, unreserved := by decide }
    let a := inMemory { types := [("user", user)] } {} fun _ => "made-up"
    let ada : Record := { id := some "u1", fields := [("name", .str "Ada")] }
    let s := (a.run [.insert "user" [ada, { id := some "u2" }]]
      (a.start {} { generate := fun _ type => type })).2
    let updates : List Update :=
      [{ id := "u1", push := [("name", .str "Lovelace")] },
        { id := "u2", replace := [("name", .str "Bob")] },
        { id := "u3", replace := [("name", .str "Carol")] }, { id := "u4" }]
    let order := updates.zipIdx.reverse
    Reachable s.store ∧ (updates.map Update.id).Nodup ∧ order.Perm updates.zipIdx ∧
      (a.serveInOrder "user" updates order s).1 =
        [some (.error (.badModifier (.notAnArray "name"))), some (.ok 1), some (.ok 0),
          some (.ok 0)] ∧
      (a.mutateInOrder "user" updates order s).1 =
        .error (.backend (.badModifier (.notAnArray "name"))) ∧
      (a.mutateInOrder "user" updates order s).2.store.documents "user" =
        [[("_id", .str "u1"), ("name", .str "Ada")],
          [("_id", .str "u2"), ("name", .str "Bob")]] := by
  intro user a ada s updates order
  have hreachable : Reachable s.store := Reachable.empty.run _ _ _ _
  have hids : (updates.map Update.id).Nodup := by decide
  have horder : order.Perm updates.zipIdx := List.reverse_perm _
  obtain ⟨hslots, hanswer, -⟩ := mutate_inOrder { types := [("user", user)] } {} (fun _ => "made-up")
    hreachable "user" hids horder
  refine ⟨hreachable, hids, horder, ?_, ?_, ?_⟩
  · rw [hslots]
    rfl
  · rw [hanswer]
    rfl
  · rw [hanswer]
    rfl

end RecordStore.Adapter
