/-
Removing records: those with one of several identifiers, or all of a type.

* `Adapter.remove` — the call.
-/
import RecordStore.Adapter.Fetch

namespace RecordStore.Adapter

variable {σ : Type}

/-- The query for the records to remove. -/
def removalQuery (ids : Option (List String)) : Document :=
  match ids with
  | some ids => restrictToIds [] ids
  | none => []

/-- Removes records of a type; their number. -/
def remove (a : Adapter σ) (type : String) (ids : Option (List String)) (s : State σ) :
    Outcome AdapterError (State σ) Nat :=
  match a.schema.type? type with
  | none => (.error (.unknownType type), s)
  | some _ =>
    if ids = some [] then (.ok 0, s.count .shortCircuited)
    else
      let collection := a.collection type
      let (answer, store) := a.backend.deleteMany collection (removalQuery ids) s.store
      let s := { s with store }
      match answer with
      | .error e => s.backendFailure "remove" type e
      | .ok removed =>
        (.ok removed,
          (s.count (·.removed removed)).tell .removeComplete
            [("type", type), ("collection", collection), ("count", Decimal.text removed)])

end RecordStore.Adapter
