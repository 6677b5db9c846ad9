/-
What the counters of records know of the store.

An adapter that has a store to itself can tell from its counters how many documents there
are: those inserted, less those removed.  It loses count in one case only.  An insertion
that fails in decoding has written its documents and counts none of them, so these remain
uncounted for good.  Every other call, whether it succeeds or fails, changes the store by
just what it counts.

* `Adapter.State.uncounted` — the documents that the counters do not know of;
* `Adapter.Request.unread` — the documents that a call leaves uncounted;
* `Adapter.uncounted_serve`, `Adapter.uncounted_run` — a call, and a run;
* `Adapter.size_eq_counters` — the size of the store after each call of a run.
-/
import Mathlib.Algebra.GroupWithZero.Nat
import RecordStore.Proofs.Adapter.Accounting
import RecordStore.Proofs.Record.Encoding
import RecordStore.Proofs.Store.Size

namespace RecordStore.Adapter

/-- The number of documents in the store that the counters do not know of. -/
def State.uncounted (s : State Memory) : UInt64 :=
  .ofNat s.store.size + s.metrics.recordsRemoved - s.metrics.recordsInserted

/-- The records that a call brings. -/
def Request.records : Request → List Record
  | .insert _ records => records
  | _ => []

/-- How many documents a call with this answer has left uncounted. -/
def Request.unread {α : Type} (request : Request) (answer : Except AdapterError α) : Nat :=
  if isUnreadable answer then request.records.length else 0

/-! ### What one call leaves uncounted -/

section Calls

variable (schema : Schema) (config : Config) (fresh : Nat → String) (type : String)
  (s : State Memory)

theorem uncounted_fetch (ids : Option (List String)) (options : FetchOptions) :
    ((inMemory schema config fresh).fetch type ids options s).2.uncounted = s.uncounted := by
  rw [fetch]
  split
  · rfl
  · split
    · rfl
    -- The store is the same after a search and a count, and no way out counts otherwise.
    · dsimp only
      split
      · rfl
      · rfl
      · split
        · rfl
        · rfl

/-- The documents of an insertion are counted unless they cannot be decoded. -/
theorem uncounted_insert (records : List Record) :
    let inserted := (inMemory schema config fresh).insert type records s
    inserted.2.uncounted =
      s.uncounted + .ofNat ((Request.insert type records).unread inserted.1) := by
  intro inserted
  have hinserted : inserted = (inMemory schema config fresh).insert type records s := rfl
  cases htype : (inMemory schema config fresh).schema.type? type with
  | none =>
    rw [hinserted, insert_of_unknown htype]
    exact (UInt64.add_zero _).symm
  | some t =>
    by_cases hempty : records.isEmpty = true
    · simp only [hinserted, insert, htype, if_pos hempty]
      exact (UInt64.add_zero _).symm
    · have hstore := Memory.size_insertMany s.store (config.collection type) fresh
        (Record.encodeAll t records s.ids).1
      rw [Record.length_encodeAll] at hstore
      rcases hstore with ⟨e, store, hanswer, hsize⟩ | ⟨stored, store, hanswer, hlength, hsize⟩
      -- Refused, for a taken identifier or for another cause.
      · have hrefused : (inMemory schema config fresh).backend.insertMany
            ((inMemory schema config fresh).collection type) _ _ = _ := hanswer
        simp only [hinserted, insert, htype, if_neg hempty, hrefused]
        have hsame : UInt64.ofNat store.size + s.metrics.recordsRemoved
            - s.metrics.recordsInserted = s.uncounted + 0 := by
          rw [hsize, UInt64.add_zero, State.uncounted]
        split
        · exact hsame
        · exact hsame
      · have hstored : (inMemory schema config fresh).backend.insertMany
            ((inMemory schema config fresh).collection type) _ _ = _ := hanswer
        simp only [hinserted, insert, htype, if_neg hempty, hstored]
        cases hdecoded : Record.decodeAll t stored with
        -- The documents are there, and no counter says so.
        | error e =>
          show UInt64.ofNat store.size + s.metrics.recordsRemoved - s.metrics.recordsInserted =
            s.uncounted + .ofNat records.length
          rw [State.uncounted, hsize, hlength, UInt64.ofNat_add]
          grind
        | ok decoded =>
          have hdecodedLength : decoded.length = stored.length :=
            (Except.mapM_eq_ok_iff.mp hdecoded).length_eq.symm
          show UInt64.ofNat store.size + s.metrics.recordsRemoved
            - (s.metrics.recordsInserted + .ofNat decoded.length) = s.uncounted + 0
          rw [State.uncounted, hsize, hdecodedLength, UInt64.ofNat_add]
          grind

theorem uncounted_applyUpdates (collection : String) (updates : List Update) :
    ((inMemory schema config fresh).applyUpdates collection updates s).2.uncounted =
      s.uncounted := by
  induction updates generalizing s with
  | nil => rfl
  | cons u rest ih =>
    have hfirst : ((inMemory schema config fresh).applyUpdate collection u s).2.uncounted =
        s.uncounted := by
      rw [applyUpdate]
      split
      · rfl
      · have hsize := Memory.size_updateOne s.store collection
          [(Document.idKey, .str u.id)] u.modifiers
        rw [State.uncounted, State.uncounted, ← hsize]
        rfl
    rw [applyUpdates]
    exact (ih _).trans hfirst

theorem uncounted_mutate (updates : List Update) :
    ((inMemory schema config fresh).mutate type updates s).2.uncounted = s.uncounted := by
  have hupdates := uncounted_applyUpdates schema config fresh s (config.collection type) updates
  rw [mutate]
  split
  · rfl
  · dsimp only
    rw [settle]
    split
    · exact hupdates
    · exact hupdates

/-- A removal counts just the documents that it takes away. -/
theorem uncounted_remove (ids : Option (List String)) :
    ((inMemory schema config fresh).remove type ids s).2.uncounted = s.uncounted := by
  cases htype : (inMemory schema config fresh).schema.type? type with
  | none => simp only [remove, htype]
  | some t =>
    by_cases hids : ids = some []
    · simp only [remove, htype, if_pos hids]
      rfl
    · obtain ⟨removed, store, hanswer, hsize⟩ :=
        Memory.size_deleteMany s.store (config.collection type) (removalQuery ids)
      have hremoved : (inMemory schema config fresh).backend.deleteMany
          ((inMemory schema config fresh).collection type) _ _ = _ := hanswer
      simp only [remove, htype, if_neg hids, hremoved]
      show UInt64.ofNat store.size + (s.metrics.recordsRemoved + .ofNat removed)
        - s.metrics.recordsInserted = s.uncounted
      rw [State.uncounted, ← hsize, UInt64.ofNat_add]
      grind

/-- What a call leaves uncounted comes on top of what was uncounted before. -/
theorem uncounted_serve (request : Request) :
    let served := (inMemory schema config fresh).serve request s
    served.2.uncounted = s.uncounted + .ofNat (request.unread served.1) := by
  intro served
  have hunread : ∀ answer : Except AdapterError Answer, request.records = [] →
      request.unread answer = 0 := by
    intro answer hrecords
    rw [Request.unread, hrecords, List.length_nil, ite_self]
  cases request with
  | fetch type ids options =>
    rw [hunread served.1 rfl]
    exact (uncounted_fetch schema config fresh type s ids options).trans (UInt64.add_zero _).symm
  | insert type records =>
    have hinserted := uncounted_insert schema config fresh type s records
    rw [Request.unread, show isUnreadable served.1 = _ from isUnreadable_map _ _]
    exact hinserted
  | mutate type updates =>
    rw [hunread served.1 rfl]
    exact (uncounted_mutate schema config fresh type s updates).trans (UInt64.add_zero _).symm
  | remove type ids =>
    rw [hunread served.1 rfl]
    exact (uncounted_remove schema config fresh type s ids).trans (UInt64.add_zero _).symm

/-- In a run the documents of all insertions that failed in decoding add up. -/
theorem uncounted_run (requests : List Request) :
    let run := (inMemory schema config fresh).run requests s
    run.2.uncounted =
      s.uncounted +
        .ofNat ((requests.zip run.1).map fun served => served.1.unread served.2).sum := by
  induction requests generalizing s with
  | nil => exact (UInt64.add_zero _).symm
  | cons request rest ih =>
    have hserved := uncounted_serve schema config fresh s request
    have hrest := ih ((inMemory schema config fresh).serve request s).2
    dsimp only at hserved hrest ⊢
    rw [run_cons, hrest, hserved, List.zip_cons_cons, List.map_cons, List.sum_cons,
      UInt64.ofNat_add]
    exact UInt64.add_assoc _ _ _

end Calls

/-- The calls of the first part of a run are answered as in the whole run. -/
theorem run_take {σ : Type} (a : Adapter σ) (n : Nat) (requests : List Request) (s : State σ) :
    (a.run (requests.take n) s).1 = (a.run requests s).1.take n := by
  induction requests generalizing n s with
  | nil => rw [List.take_nil, run, List.take_nil]
  | cons request rest ih =>
    cases n with
    | zero => rfl
    | succ n => rw [List.take_succ_cons, run_cons, run_cons, ih, List.take_succ_cons]

/-- In a run on an empty store in which no insertion failed in decoding, the store holds,
after each call, as many documents as the counters say were inserted, less those that they
say were removed, modulo 2 ^ 64.  All calls may fail in other ways, and types may share a
collection. -/
theorem size_eq_counters (schema : Schema) (config : Config) (fresh : Nat → String)
    (ids : IdSupply) (log : Log) (requests : List Request) :
    let a := inMemory schema config fresh
    let start := a.start {} ids log
    (∀ served ∈ requests.zip (a.run requests start).1, ∀ type records,
      served.1 = .insert type records → ∀ cause, served.2 ≠ .error (.invalidBinary cause)) →
    ∀ n, let s := (a.run (requests.take n) start).2
      UInt64.ofNat s.store.size = s.metrics.recordsInserted - s.metrics.recordsRemoved := by
  intro a start hreadable n s
  have hunread : ∀ served ∈ (requests.take n).zip (a.run (requests.take n) start).1,
      served.1.unread served.2 = 0 := by
    rintro ⟨request, answer⟩ hserved
    -- The first calls are calls of the run, with the answers that they have there.
    rw [run_take, List.zip_eq_zipWith, ← List.take_zipWith, ← List.zip_eq_zipWith] at hserved
    have hcall := hreadable _ (List.mem_of_mem_take hserved)
    rw [Request.unread]
    split
    · rename_i hanswer
      obtain ⟨cause, hcause⟩ := isUnreadable_iff.mp hanswer
      cases request with
      | insert type records => exact absurd hcause (hcall type records rfl cause)
      | fetch type ids options => rfl
      | mutate type updates => rfl
      | remove type ids => rfl
    · rfl
  have hsum : (((requests.take n).zip (a.run (requests.take n) start).1).map
      fun served => served.1.unread served.2).sum = 0 := by
    refine List.sum_eq_zero fun k hk => ?_
    obtain ⟨served, hserved, rfl⟩ := List.mem_map.mp hk
    exact hunread served hserved
  have hstart : start.uncounted = 0 := by
    rw [State.uncounted, show start.store = {} from rfl, Memory.size_empty]
    show (0 : UInt64) + 0 - 0 = 0
    decide
  have hrun := uncounted_run schema config fresh start (requests.take n)
  dsimp only at hrun
  rw [hsum, hstart, State.uncounted] at hrun
  grind

/-- Two types in one collection; an insertion meets a conflict, an update puts a text into a
field of bytes, so that a fetch fails in decoding, and a removal names an identifier twice
and one that is not there. -/
theorem size_eq_counters_shared :
    let person (name : String) : RecordType :=
      { name, fields := [{ name := "avatar", storage := .binary }]
        nodup := by decide, unreserved := by decide }
    let schema : Schema := { types := [("admin", person "admin"), ("user", person "user")] }
    let config : Config := { typeMap := [("admin", "people"), ("user", "people")] }
    let a := inMemory schema config fun _ => "made-up"
    let start := a.start {} { generate := fun _ type => type }
    let requests : List Request :=
      [.insert "user" [{ id := some "p1" }, { id := some "p2" }, { id := some "p3" }],
        .insert "admin" [{ id := some "p4" }, { id := some "p2" }],
        .mutate "user" [{ id := "p1", replace := [("avatar", .str "nope")] }],
        .fetch "user" none {},
        .remove "admin" (some ["p2", "p9", "p2"]),
        .insert "post" [{}]]
    (∀ served ∈ requests.zip (a.run requests start).1, ∀ type records,
      served.1 = .insert type records → ∀ cause, served.2 ≠ .error (.invalidBinary cause)) ∧
    (∀ n, let s := (a.run (requests.take n) start).2
      UInt64.ofNat s.store.size = s.metrics.recordsInserted - s.metrics.recordsRemoved) ∧
    UInt64.ofNat (a.run requests start).2.store.size = 3 - 1 := by
  intro person schema config a start requests
  have hreadable : ∀ served ∈ requests.zip (a.run requests start).1, ∀ type records,
      served.1 = .insert type records → ∀ cause, served.2 ≠ .error (.invalidBinary cause) := by
    have hall : ∃ inserted cause, (a.run requests start).1 =
        [.ok (.inserted inserted), .error .conflict, .ok (.mutated 1),
          .error (.invalidBinary cause), .ok (.removed 1), .error (.unknownType "post")] :=
      ⟨_, _, rfl⟩
    obtain ⟨inserted, cause, hall⟩ := hall
    rw [hall]
    simp [requests]
  have hsizes := size_eq_counters schema config (fun _ => "made-up")
    { generate := fun _ type => type } {} requests hreadable
  exact ⟨hreadable, hsizes, hsizes 6⟩

end RecordStore.Adapter
