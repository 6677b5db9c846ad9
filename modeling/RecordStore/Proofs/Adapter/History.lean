/-
What a store is asked in a run.

A call asks the store what follows from the request and the supply of identifiers.  No
answer has a say in it: a search is followed by a count of the same query even if it
fails, and an update that fails is followed by the next one.

* `Adapter.Request.asks`, `Adapter.asked` — what is asked in a call, and in a run;
* `Adapter.history_serve`, `Adapter.history_run` — that this is what a store records.
-/
import RecordStore.Proofs.Adapter.Run

namespace RecordStore.Adapter

variable {σ : Type}

/-! ### What follows from requests -/

/-- What a call on a known type asks the store, and the supply after it. -/
def Request.asksOf (t : RecordType) (collection : String) :
    Request → IdSupply → List Call × IdSupply
  | .fetch _ wanted options, ids =>
    if wanted = some [] then ([], ids)
    else
      let query := options.storeQuery t wanted
      ([.find collection query options.findOptions, .count collection query], ids)
  | .insert _ records, ids =>
    if records.isEmpty then ([], ids)
    else
      let (documents, ids) := Record.encodeAll t records ids
      ([.insertMany collection documents], ids)
  | .mutate _ updates, ids =>
    ((updates.filter fun u => !u.modifiers.isEmpty).map fun u =>
      .updateOne collection [(Document.idKey, .str u.id)] u.modifiers, ids)
  | .remove _ wanted, ids =>
    if wanted = some [] then ([], ids)
    else ([.deleteMany collection (removalQuery wanted)], ids)

/-- What a call asks the store, and the supply after it. -/
def Request.asks (schema : Schema) (config : Config) (request : Request) (ids : IdSupply) :
    List Call × IdSupply :=
  match schema.type? request.type with
  | none => ([], ids)
  | some t => request.asksOf t (config.collection request.type) ids

/-- What requests ask the store, one after the other. -/
def asked (schema : Schema) (config : Config) : List Request → IdSupply → List Call
  | [], _ => []
  | request :: rest, ids =>
    let (calls, ids) := request.asks schema config ids
    calls ++ asked schema config rest ids

/-! ### What is recorded -/

/-- The calls recorded so far, and the supply. -/
def State.history (s : State (σ × List Call)) : List Call × IdSupply := (s.store.2, s.ids)

theorem State.history_eq {s : State (σ × List Call)} {core : (σ × List Call) × IdSupply}
    (h : s.core = core) : s.history = (core.1.2, core.2) :=
  congrArg (fun core => (core.1.2, core.2)) h

theorem State.history_eq_append_nil (s : State (σ × List Call)) :
    s.history = (s.history.1 ++ [], s.history.2) := by
  rw [List.append_nil]

section Recorded

variable (schema : Schema) (config : Config) (b : Backend σ) (s : State (σ × List Call))

theorem history_applyUpdate (collection : String) (u : Update) :
    (applyUpdate { schema, config, backend := b.recorded } collection u s).2.history =
      (s.history.1 ++ if u.modifiers.isEmpty then [] else
        [.updateOne collection [(Document.idKey, .str u.id)] u.modifiers], s.history.2) := by
  rw [State.history_eq (core_applyUpdate _ _ _ _)]
  cases u.modifiers.isEmpty with
  | true => exact s.history_eq_append_nil
  | false => rfl

theorem history_applyUpdates (collection : String) (updates : List Update) :
    (applyUpdates { schema, config, backend := b.recorded } collection updates s).2.history =
      (s.history.1 ++ (updates.filter fun u => !u.modifiers.isEmpty).map fun u =>
        .updateOne collection [(Document.idKey, .str u.id)] u.modifiers, s.history.2) := by
  induction updates generalizing s with
  | nil => exact s.history_eq_append_nil
  | cons u rest ih =>
    rw [applyUpdates]
    dsimp only
    rw [ih, history_applyUpdate, List.filter_cons, List.append_assoc]
    cases u.modifiers.isEmpty with
    | true => rfl
    | false => rfl

section Known

variable {type : String} {t : RecordType} (htype : schema.type? type = some t)

include htype

theorem history_fetch (ids : Option (List String)) (options : FetchOptions) :
    (fetch { schema, config, backend := b.recorded } type ids options s).2.history =
      let asks := (Request.fetch type ids options).asksOf t (config.collection type) s.history.2
      (s.history.1 ++ asks.1, asks.2) := by
  rw [State.history_eq (core_fetch _ _ _ _ _), Request.asksOf, htype]
  dsimp only
  by_cases hids : ids = some []
  · rw [if_pos hids, if_pos hids]
    exact s.history_eq_append_nil
  · rw [if_neg hids, if_neg hids, List.append_cons]
    rfl

theorem history_insert (records : List Record) :
    (insert { schema, config, backend := b.recorded } type records s).2.history =
      let asks := (Request.insert type records).asksOf t (config.collection type) s.history.2
      (s.history.1 ++ asks.1, asks.2) := by
  rw [State.history_eq (core_insert _ _ _ _), Request.asksOf, htype]
  dsimp only
  by_cases hrecords : records.isEmpty = true
  · rw [if_pos hrecords, if_pos hrecords]
    exact s.history_eq_append_nil
  · rw [if_neg hrecords, if_neg hrecords]
    rfl

theorem history_mutate (updates : List Update) :
    (mutate { schema, config, backend := b.recorded } type updates s).2.history =
      let asks := (Request.mutate type updates).asksOf t (config.collection type) s.history.2
      (s.history.1 ++ asks.1, asks.2) := by
  rw [State.history_eq (core_mutate _ _ _ _), Request.asksOf, htype]
  exact history_applyUpdates schema config b s (config.collection type) updates

theorem history_remove (ids : Option (List String)) :
    (remove { schema, config, backend := b.recorded } type ids s).2.history =
      let asks := (Request.remove type ids).asksOf t (config.collection type) s.history.2
      (s.history.1 ++ asks.1, asks.2) := by
  rw [State.history_eq (core_remove _ _ _ _), Request.asksOf, htype]
  dsimp only
  by_cases hids : ids = some []
  · rw [if_pos hids, if_pos hids]
    exact s.history_eq_append_nil
  · rw [if_neg hids, if_neg hids]
    rfl

end Known

/-- A call asks the store just what follows from the request and the supply, whatever the
store answers. -/
theorem history_serve (request : Request) :
    (serve { schema, config, backend := b.recorded } request s).2.history =
      (s.history.1 ++ (request.asks schema config s.history.2).1,
        (request.asks schema config s.history.2).2) := by
  cases htype : schema.type? request.type with
  | none =>
    rw [serve_of_unknown request s htype, Request.asks, htype]
    exact s.history_eq_append_nil
  | some t =>
    rw [Request.asks, htype]
    cases request with
    | fetch type ids options => exact history_fetch schema config b s htype ids options
    | insert type records => exact history_insert schema config b s htype records
    | mutate type updates => exact history_mutate schema config b s htype updates
    | remove type ids => exact history_remove schema config b s htype ids

theorem history_run (requests : List Request) :
    (run { schema, config, backend := b.recorded } requests s).2.history.1 =
      s.history.1 ++ asked schema config requests s.history.2 := by
  induction requests generalizing s with
  | nil => exact (List.append_nil _).symm
  | cons request rest ih =>
    rw [run_cons, ih, history_serve, asked, List.append_assoc]

end Recorded

end RecordStore.Adapter
