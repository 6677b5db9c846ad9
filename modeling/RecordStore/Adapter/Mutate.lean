/-
Updating records.

Every update is applied on its own, whether another one fails or not; the first failure
in the order of the list is that of the call.  The updates of a call are all under way at
once, and which of them the store serves first is not decided here but by what runs them.
Serving them in the order of the list, as `Adapter.applyUpdates` does, is therefore a
choice.  It is of no account where the updates are for different records; of two updates
for one record, that the later one finds what the earlier one has left rests on it.

* `Adapter.applyUpdate`, `Adapter.applyUpdates` — one update, and all of a list;
* `Adapter.settle` — the answer to a call, from the outcomes of its updates;
* `Adapter.mutate` — the call.
-/
import RecordStore.Adapter.Basic
import RecordStore.Update

namespace RecordStore.Adapter

variable {σ : Type}

/-- Applies an update to the record that it names; the number of records found.  An
update that asks nothing does not reach the store. -/
def applyUpdate (a : Adapter σ) (collection : String) (u : Update) (s : State σ) :
    Outcome StoreError (State σ) Nat :=
  if u.modifiers.isEmpty then (.ok 0, s.count .shortCircuited)
  else
    let (answer, store) :=
      a.backend.updateOne collection [(Document.idKey, .str u.id)] u.modifiers s.store
    (answer, { s with store })

/-- Applies all updates in the order of the list, each with an outcome of its own. -/
def applyUpdates (a : Adapter σ) (collection : String) :
    List Update → State σ → List (Except StoreError Nat) × State σ
  | [], s => ([], s)
  | u :: rest, s =>
    let (outcome, s) := applyUpdate a collection u s
    let (outcomes, s) := applyUpdates a collection rest s
    (outcome :: outcomes, s)

/-- Adds what an update has found, unless it failed, to a 64-bit sum, which wraps around. -/
def addMatched (sum : Nat) (outcome : Except StoreError Nat) : Except StoreError Nat :=
  outcome.map fun n => (sum + n) % 2 ^ 64

/-- The sum of the numbers, or the first failure. -/
def total (outcomes : List (Except StoreError Nat)) : Except StoreError Nat :=
  outcomes.foldlM addMatched 0

/-- Answers a call on a type whose updates had these outcomes. -/
def settle (type collection : String) (outcomes : List (Except StoreError Nat)) (s : State σ) :
    Outcome AdapterError (State σ) Nat :=
  match total outcomes with
  | .error e => s.backendFailure "mutate" type e
  | .ok matched =>
    (.ok matched,
      (s.count (·.mutated matched)).tell .mutateComplete
        [("type", type), ("collection", collection), ("count", Decimal.text matched)])

/-- Applies updates to records of a type; the number of records found. -/
def mutate (a : Adapter σ) (type : String) (updates : List Update) (s : State σ) :
    Outcome AdapterError (State σ) Nat :=
  match a.schema.type? type with
  | none => (.error (.unknownType type), s)
  | some _ =>
    let (outcomes, s) := applyUpdates a (a.collection type) updates s
    settle type (a.collection type) outcomes s

end RecordStore.Adapter
