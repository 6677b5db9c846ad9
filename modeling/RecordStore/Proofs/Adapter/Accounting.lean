/-
What the counters know of a run.

A call on a known type ends in one of several ways: it was given an empty list and does
not ask the store, it is done, it meets a conflict or another failure of the store, or it
fails in decoding.  Only the last way has no counter, and empty lists are counted together
with updates that ask nothing.  So the counters account for all calls on known types,
whatever the store answers.

* `Metrics.outcomes` — the counters of calls, taken together;
* `Adapter.Accounted` — what a call on a known type adds to the counters;
* `Adapter.accounted_serve`, `Adapter.accounted_run` — one call, and a run;
* `Adapter.run_accounts` — a run from its start, with what the store was asked in it.
-/
import RecordStore.Proofs.Adapter.History

namespace RecordStore

/-! ### Counters -/

namespace Metrics

/-- The counters that count calls: those that were done, and those that failed in the
store. -/
def outcomes (m : Metrics) : UInt64 :=
  m.fetches + m.inserts + m.mutations + m.removals + m.conflicts + m.backendErrors

variable (m : Metrics) (n : Nat)

theorem outcomes_fetched : (m.fetched n).outcomes = m.outcomes + 1 := by
  simp only [outcomes, fetched]
  ac_rfl

theorem outcomes_inserted : (m.inserted n).outcomes = m.outcomes + 1 := by
  simp only [outcomes, inserted]
  ac_rfl

theorem outcomes_mutated : (m.mutated n).outcomes = m.outcomes + 1 := by
  simp only [outcomes, mutated]
  ac_rfl

theorem outcomes_removed : (m.removed n).outcomes = m.outcomes + 1 := by
  simp only [outcomes, removed]
  ac_rfl

theorem outcomes_conflicted : m.conflicted.outcomes = m.outcomes + 1 := by
  simp only [outcomes, conflicted]
  ac_rfl

theorem outcomes_failed : m.failed.outcomes = m.outcomes + 1 := by
  simp only [outcomes, failed]
  ac_rfl

end Metrics

namespace Adapter

variable {σ α β : Type}

/-! ### Requests -/

/-- The calls on known types. -/
def known (schema : Schema) (requests : List Request) : List Request :=
  requests.filter fun request => schema.contains request.type

/-- Whether a call is given an empty list, with which it does not ask the store. -/
def Request.isEmptyList : Request → Bool
  | .fetch _ ids _ => ids = some []
  | .insert _ records => records.isEmpty
  | .mutate .. => false
  | .remove _ ids => ids = some []

/-- The updates of a call. -/
def Request.updates : Request → List Update
  | .mutate _ updates => updates
  | _ => []

/-- How many updates ask nothing. -/
def idle (updates : List Update) : Nat := updates.countP fun u => u.modifiers.isEmpty

theorem idle_append (us vs : List Update) : idle (us ++ vs) = idle us + idle vs :=
  List.countP_append

/-! ### Ways for a call to end -/

/-- Whether a call failed in decoding. -/
def isUnreadable : Except AdapterError α → Bool
  | .error (.invalidBinary _) => true
  | _ => false

theorem isUnreadable_iff {answer : Except AdapterError α} :
    isUnreadable answer = true ↔ ∃ cause, answer = .error (.invalidBinary cause) := by
  rcases answer with (_ | cause | _ | _ | _) | _
  case error.invalidBinary => exact iff_of_true rfl ⟨cause, rfl⟩
  all_goals exact iff_of_false Bool.false_ne_true (by simp)

theorem isUnreadable_map (f : α → β) (answer : Except AdapterError α) :
    isUnreadable (answer.map f) = isUnreadable answer := by
  rcases answer with (_ | _ | _ | _ | _) | _ <;> rfl

/-- What a call on a known type has added to the counters: one for itself, unless it was
given an empty list or failed in decoding, and one short circuit for an empty list and
for each idle update. -/
structure Accounted (emptyList : Bool) (idleUpdates : Nat) (m : Metrics)
    (served : Outcome AdapterError (State σ) α) : Prop where
  outcomes : served.2.metrics.outcomes + .ofNat (isUnreadable served.1).toNat
    + .ofNat emptyList.toNat = m.outcomes + 1
  shortCircuits : served.2.metrics.shortCircuits =
    m.shortCircuits + .ofNat emptyList.toNat + .ofNat idleUpdates

namespace Accounted

variable {s : State σ} {m : Metrics} (hm : s.metrics = m)

include hm

/-- The call was given an empty list. -/
theorem emptyList (answer : α) : Accounted true 0 m (.ok answer, s.count .shortCircuited) := by
  subst hm
  constructor
  · show s.metrics.outcomes + 0 + 1 = s.metrics.outcomes + 1
    rw [UInt64.add_zero]
  · exact (UInt64.add_zero _).symm

/-- The call was counted once and did not fail in decoding. -/
theorem counted {change : Metrics → Metrics} {answer : Except AdapterError α}
    (hanswer : isUnreadable answer = false)
    (houtcomes : (change m).outcomes = m.outcomes + 1)
    (hshort : (change m).shortCircuits = m.shortCircuits)
    (event : Event) (fields : List (String × String)) :
    Accounted false 0 m (answer, (s.count change).tell event fields) := by
  subst hm
  constructor
  · rw [hanswer]
    show (change s.metrics).outcomes + 0 + 0 = s.metrics.outcomes + 1
    rw [UInt64.add_zero, UInt64.add_zero, houtcomes]
  · show (change s.metrics).shortCircuits = s.metrics.shortCircuits + 0 + 0
    rw [UInt64.add_zero, UInt64.add_zero, hshort]

theorem failed (operation type : String) (e : StoreError) :
    Accounted false 0 m (s.backendFailure operation type e : Outcome _ _ α) :=
  counted hm rfl (Metrics.outcomes_failed m) rfl _ _

theorem unreadable (type : String) (e : InvalidBinary) :
    Accounted false 0 m (s.decodeFailure type e : Outcome _ _ α) := by
  subst hm
  constructor
  · exact UInt64.add_zero _
  · exact ((UInt64.add_zero _).trans (UInt64.add_zero _)).symm

omit hm

variable {emptyList : Bool} {idleUpdates : Nat} {served : Outcome AdapterError (State σ) α}

theorem map (h : Accounted emptyList idleUpdates m served) (f : α → β) :
    Accounted emptyList idleUpdates m (served.map (Except.map f) id) where
  outcomes := by
    show served.2.metrics.outcomes + .ofNat (isUnreadable (served.1.map f)).toNat + _ = _
    rw [isUnreadable_map]
    exact h.outcomes
  shortCircuits := h.shortCircuits

end Accounted

/-! ### What one call adds -/

section Calls

variable (a : Adapter σ) (type : String) (s : State σ)

theorem accounted_fetch {t : RecordType} (htype : a.schema.type? type = some t)
    (ids : Option (List String)) (options : FetchOptions) :
    Accounted (decide (ids = some [])) 0 s.metrics (a.fetch type ids options s) := by
  rw [fetch, htype]
  dsimp only
  by_cases hids : ids = some []
  · rw [if_pos hids, decide_eq_true hids]
    exact Accounted.emptyList rfl _
  · rw [if_neg hids, decide_eq_false hids]
    split
    · exact Accounted.failed (by rfl) _ _ _
    · exact Accounted.failed (by rfl) _ _ _
    · split
      · exact Accounted.unreadable (by rfl) _ _
      · refine Accounted.counted (by rfl) rfl ?_ rfl _ _
        exact Metrics.outcomes_fetched _ _

theorem accounted_insert {t : RecordType} (htype : a.schema.type? type = some t)
    (records : List Record) :
    Accounted records.isEmpty 0 s.metrics (a.insert type records s) := by
  rw [insert, htype]
  dsimp only
  cases records with
  | nil => exact Accounted.emptyList rfl _
  | cons r rest =>
    rw [List.isEmpty_cons, if_neg Bool.false_ne_true]
    split
    · split
      · exact Accounted.counted (by rfl) rfl (Metrics.outcomes_conflicted _) rfl _ _
      · exact Accounted.failed (by rfl) _ _ _
    · split
      · exact Accounted.unreadable (by rfl) _ _
      · refine Accounted.counted (by rfl) rfl ?_ rfl _ _
        exact Metrics.outcomes_inserted _ _

theorem accounted_remove {t : RecordType} (htype : a.schema.type? type = some t)
    (ids : Option (List String)) :
    Accounted (decide (ids = some [])) 0 s.metrics (a.remove type ids s) := by
  rw [remove, htype]
  dsimp only
  by_cases hids : ids = some []
  · rw [if_pos hids, decide_eq_true hids]
    exact Accounted.emptyList rfl _
  · rw [if_neg hids, decide_eq_false hids]
    split
    · exact Accounted.failed (by rfl) _ _ _
    · refine Accounted.counted (by rfl) rfl ?_ rfl _ _
      exact Metrics.outcomes_removed _ _

/-- Updates are counted only if they ask nothing. -/
theorem metrics_applyUpdates (collection : String) (updates : List Update) :
    (a.applyUpdates collection updates s).2.metrics.outcomes = s.metrics.outcomes ∧
    (a.applyUpdates collection updates s).2.metrics.shortCircuits =
      s.metrics.shortCircuits + .ofNat (idle updates) := by
  induction updates generalizing s with
  | nil => exact ⟨rfl, (UInt64.add_zero _).symm⟩
  | cons u rest ih =>
    obtain ⟨houtcomes, hshort⟩ := ih (a.applyUpdate collection u s).2
    rw [applyUpdates]
    dsimp only
    rw [houtcomes, hshort, applyUpdate, idle, idle, List.countP_cons]
    cases u.modifiers.isEmpty with
    | false => exact ⟨rfl, rfl⟩
    | true =>
      refine ⟨rfl, ?_⟩
      show s.metrics.shortCircuits + 1 + _ = _
      rw [if_pos rfl, UInt64.ofNat_add, UInt64.add_assoc, UInt64.add_comm 1]
      rfl

theorem accounted_mutate {t : RecordType} (htype : a.schema.type? type = some t)
    (updates : List Update) :
    Accounted false (idle updates) s.metrics (a.mutate type updates s) := by
  obtain ⟨houtcomes, hshort⟩ := metrics_applyUpdates a s (a.collection type) updates
  rw [mutate, htype]
  dsimp only
  generalize a.applyUpdates (a.collection type) updates s = applied at houtcomes hshort ⊢
  obtain ⟨outcomes, s'⟩ := applied
  -- All updates have had their turn; the call is settled once, whatever became of them.
  have hsettled : Accounted false 0 s'.metrics
      (settle type (a.collection type) outcomes s') := by
    rw [settle]
    split
    · exact Accounted.failed (by rfl) _ _ _
    · refine Accounted.counted (by rfl) rfl ?_ rfl _ _
      exact Metrics.outcomes_mutated _ _
  constructor
  · rw [hsettled.outcomes, houtcomes]
  · rw [hsettled.shortCircuits, hshort]
    show _ + 0 + 0 = _ + 0 + _
    rw [UInt64.add_zero, UInt64.add_zero, UInt64.add_zero]

end Calls

theorem accounted_serve (a : Adapter σ) (request : Request) (s : State σ)
    (hknown : a.schema.contains request.type = true) :
    Accounted request.isEmptyList (idle request.updates) s.metrics (a.serve request s) := by
  obtain ⟨t, htype⟩ := Option.isSome_iff_exists.mp hknown
  cases request with
  | fetch type ids options => exact (accounted_fetch a type s htype ids options).map _
  | insert type records => exact (accounted_insert a type s htype records).map _
  | mutate type updates => exact (accounted_mutate a type s htype updates).map _
  | remove type ids => exact (accounted_remove a type s htype ids).map _

/-! ### Runs -/

theorem ofNat_countP_cons (p : α → Bool) (x : α) (xs : List α) :
    UInt64.ofNat ((x :: xs).countP p) = .ofNat (p x).toNat + .ofNat (xs.countP p) := by
  rw [List.countP_cons, Nat.add_comm, UInt64.ofNat_add]
  cases p x <;> rfl

/-- What the calls of a run have added to the counters. -/
theorem accounted_run (a : Adapter σ) (requests : List Request) (s : State σ) :
    (a.run requests s).2.metrics.outcomes + .ofNat ((a.run requests s).1.countP isUnreadable)
        + .ofNat ((known a.schema requests).countP Request.isEmptyList) =
      s.metrics.outcomes + .ofNat (known a.schema requests).length ∧
    (a.run requests s).2.metrics.shortCircuits =
      s.metrics.shortCircuits + .ofNat ((known a.schema requests).countP Request.isEmptyList)
        + .ofNat (idle ((known a.schema requests).flatMap Request.updates)) := by
  induction requests generalizing s with
  | nil =>
    constructor
    · show _ + 0 + 0 = _ + 0
      rw [UInt64.add_zero]
      rfl
    · exact ((UInt64.add_zero _).trans (UInt64.add_zero _)).symm
  | cons request rest ih =>
    obtain ⟨houtcomes, hshort⟩ := ih (a.serve request s).2
    rw [run_cons, ofNat_countP_cons]
    dsimp only
    -- What the call adds and what the rest adds are summed up, unless the call adds nothing.
    by_cases hknown : a.schema.contains request.type = true
    · obtain ⟨hone, honeShort⟩ := accounted_serve a request s hknown
      have hlist : known a.schema (request :: rest) = request :: known a.schema rest :=
        List.filter_cons_of_pos hknown
      rw [hlist, ofNat_countP_cons, List.length_cons, List.flatMap_cons, idle_append,
        UInt64.ofNat_add, UInt64.ofNat_add]
      constructor
      · grind
      · grind
    · have hlist : known a.schema (request :: rest) = known a.schema rest :=
        List.filter_cons_of_neg hknown
      have hserved : a.serve request s = (.error (.unknownType request.type), s) :=
        serve_of_unknown request s (Option.not_isSome_iff_eq_none.mp hknown)
      rw [hserved] at houtcomes hshort ⊢
      rw [hlist]
      refine ⟨?_, hshort⟩
      show _ + (0 + _) + _ = _
      rw [UInt64.zero_add]
      exact houtcomes

/-- In a run over any store, each call on a known type that was not given an empty list and
did not fail in decoding has been counted once, and each empty list and each idle update
as a short circuit, modulo 2 ^ 64.  The store was asked what follows from the requests and
nothing else: a search and a count with the same query for a fetch, one batch for an
insertion, one update for each update that is not idle, and one removal.  A call on a type
that is not known changes nothing at all. -/
theorem run_accounts (schema : Schema) (config : Config) (b : Backend σ) (store : σ)
    (ids : IdSupply) (log : Log) (requests : List Request) :
    let a : Adapter (σ × List Call) := { schema, config, backend := b.recorded }
    let after := a.run requests (a.start (store, []) ids log)
    let m := after.2.metrics
    let emptyLists := (known schema requests).countP Request.isEmptyList
    let idleUpdates := idle ((known schema requests).flatMap Request.updates)
    UInt64.ofNat (known schema requests).length =
        m.fetches + m.inserts + m.mutations + m.removals + m.conflicts + m.backendErrors
          + .ofNat (after.1.countP isUnreadable) + .ofNat emptyLists ∧
      m.shortCircuits = .ofNat (emptyLists + idleUpdates) ∧
      after.2.store.2 = asked schema config requests ids ∧
      ∀ request s, schema.contains request.type = false →
        a.serve request s = (.error (.unknownType request.type), s) := by
  intro a after m emptyLists idleUpdates
  obtain ⟨houtcomes, hshort⟩ := accounted_run a requests (a.start (store, []) ids log)
  have hhistory := history_run schema config b (a.start (store, []) ids log) requests
  refine ⟨?_, ?_, hhistory, fun request s hunknown => ?_⟩
  · exact (UInt64.zero_add _).symm.trans houtcomes.symm
  · rw [UInt64.ofNat_add, ← UInt64.zero_add (UInt64.ofNat emptyLists)]
    exact hshort
  · exact serve_of_unknown request s
      (Option.isNone_iff_eq_none.mp (Option.isSome_eq_false_iff.mp hunknown))

/-- Calls that end in every way, over a store that cannot remove anything. -/
theorem run_accounts_every_way :
    let user : RecordType :=
      { name := "user", fields := [{ name := "avatar", storage := .binary }]
        nodup := by decide, unreserved := by decide }
    let schema : Schema := { types := [("user", user)] }
    let b := (Memory.backend fun _ => "made-up").scripted fun call =>
      if call.name = "delete_many" then some (.reported none "down") else none
    let a : Adapter (Memory × List Call) := { schema, config := {}, backend := b.recorded }
    let requests : List Request :=
      [.insert "user" [{ id := some "u1", fields := [("avatar", .str "nope")] }],
        .insert "user" [{ id := some "u1" }],
        .insert "user" [],
        .mutate "user" [{ id := "u1" }, { id := "u1", replace := [("avatar", .arr [])] }],
        .fetch "user" none {},
        .remove "user" none,
        .fetch "post" (some []) {}]
    let after := a.run requests (a.start ({}, []) { generate := fun _ type => type })
    let m := after.2.metrics
    schema.contains "post" = false ∧
      UInt64.ofNat 6 = m.fetches + m.inserts + m.mutations + m.removals + m.conflicts
        + m.backendErrors + .ofNat 1 + .ofNat 1 ∧
      m.shortCircuits = .ofNat (1 + 1) ∧
      after.2.store.2.map Call.name =
        ["insert_many", "insert_many", "update_one", "find", "count", "delete_many"] ∧
      a.serve (.fetch "post" none {}) after.2 = (.error (.unknownType "post"), after.2) := by
  intro user schema b a requests after m
  obtain ⟨hcalls, hshort, hasked, hunknown⟩ :=
    run_accounts schema {} b {} { generate := fun _ type => type } {} requests
  have hpost : schema.contains "post" = false := rfl
  refine ⟨hpost, hcalls, hshort, ?_, hunknown (.fetch "post" none {}) after.2 hpost⟩
  rw [hasked]
  rfl

end Adapter

end RecordStore
