/-
Inserting records.

All records go to the store in one batch, and the answer is the records as stored.

* `Adapter.insert` — the call.
-/
import RecordStore.Adapter.Basic

namespace RecordStore.Adapter

variable {σ : Type}

/-- Stores records of a type; the records as stored. -/
def insert (a : Adapter σ) (type : String) (records : List Record) (s : State σ) :
    Outcome AdapterError (State σ) (List Record) :=
  match a.schema.type? type with
  | none => (.error (.unknownType type), s)
  | some t =>
    if records.isEmpty then (.ok [], s.count .shortCircuited)
    else
      let collection := a.collection type
      let (documents, ids) := Record.encodeAll t records s.ids
      let (answer, store) := a.backend.insertMany collection documents s.store
      let s := { s with ids, store }
      match answer with
      | .error e =>
        if e.isDuplicate then
          (.error .conflict,
            (s.count .conflicted).tell .insertConflict
              [("type", type), ("collection", collection), ("error", e.message)])
        else s.backendFailure "insert" type e
      | .ok stored =>
        match Record.decodeAll t stored with
        | .error e => s.decodeFailure t.name e
        | .ok inserted =>
          (.ok inserted,
            (s.count (·.inserted inserted.length)).tell .insertComplete
              [("type", type), ("collection", collection),
                ("count", Decimal.text inserted.length)])

end RecordStore.Adapter
