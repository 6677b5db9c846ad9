/-
Runs of an adapter, and what a call does to its store.

Of the state of an adapter only the store and the supply of identifiers have a say in
what later calls do; the counters and the log are just written.  So there is one
equation for each kind of call that says what becomes of these two, whatever the
outcome of the call is.

* `Adapter.run` — requests served in their order, each with an answer of its own;
* `Adapter.serve_of_unknown` — a call on a type that is not known;
* `Adapter.State.core` — the store and the supply;
* `Adapter.core_fetch`, `Adapter.core_insert`, `Adapter.core_applyUpdate`,
  `Adapter.core_mutate`, `Adapter.core_remove` — the equations.
-/
import RecordStore.Adapter.Insert
import RecordStore.Adapter.Mutate
import RecordStore.Adapter.Remove
import RecordStore.Store.Memory

namespace RecordStore.Adapter

/-- An adapter over the store in memory. -/
def inMemory (schema : Schema) (config : Config) (fresh : Nat → String) : Adapter Memory :=
  { schema, config, backend := Memory.backend fresh }

@[simp] theorem inMemory_schema (schema : Schema) (config : Config) (fresh : Nat → String) :
    (inMemory schema config fresh).schema = schema := rfl

/-- A call on an adapter. -/
inductive Request where
  | fetch (type : String) (ids : Option (List String)) (options : FetchOptions)
  | insert (type : String) (records : List Record)
  | mutate (type : String) (updates : List Update)
  | remove (type : String) (ids : Option (List String))

/-- What a call that succeeds answers. -/
inductive Answer where
  | fetched (result : FetchResult)
  | inserted (records : List Record)
  | mutated (matched : Nat)
  | removed (count : Nat)

variable {σ : Type}

/-- Serves a request. -/
def serve (a : Adapter σ) (request : Request) (s : State σ) :
    Outcome AdapterError (State σ) Answer :=
  match request with
  | .fetch type ids options => (a.fetch type ids options s).map (Except.map .fetched) id
  | .insert type records => (a.insert type records s).map (Except.map .inserted) id
  | .mutate type updates => (a.mutate type updates s).map (Except.map .mutated) id
  | .remove type ids => (a.remove type ids s).map (Except.map .removed) id

/-- Serves requests in their order, whether they succeed or fail. -/
def run (a : Adapter σ) : List Request → State σ → List (Except AdapterError Answer) × State σ
  | [], s => ([], s)
  | request :: rest, s =>
    let (answer, s) := a.serve request s
    let (answers, s) := a.run rest s
    (answer :: answers, s)

theorem run_cons (a : Adapter σ) (request : Request) (rest : List Request) (s : State σ) :
    a.run (request :: rest) s =
      ((a.serve request s).1 :: (a.run rest (a.serve request s).2).1,
        (a.run rest (a.serve request s).2).2) := rfl

/-! ### Types that are not known -/

/-- The type that a call is about. -/
def Request.type : Request → String
  | .fetch type .. | .insert type _ | .mutate type _ | .remove type _ => type

section Unknown

variable {a : Adapter σ} {type : String} (htype : a.schema.type? type = none)

include htype

theorem fetch_of_unknown (ids : Option (List String)) (options : FetchOptions) (s : State σ) :
    a.fetch type ids options s = (.error (.unknownType type), s) := by
  rw [fetch, htype]

theorem insert_of_unknown {records : List Record} {s : State σ} :
    a.insert type records s = (.error (.unknownType type), s) := by
  rw [insert, htype]

end Unknown

theorem serve_of_unknown {a : Adapter σ} (request : Request) (s : State σ)
    (htype : a.schema.type? request.type = none) :
    a.serve request s = (.error (.unknownType request.type), s) := by
  cases request with
  | fetch type ids options =>
    rw [Request.type] at htype
    rw [serve, fetch_of_unknown htype]
    rfl
  | insert type records =>
    rw [Request.type] at htype
    rw [serve, insert_of_unknown htype]
    rfl
  | mutate type updates =>
    rw [Request.type] at htype
    rw [serve, mutate, htype]
    rfl
  | remove type ids =>
    rw [Request.type] at htype
    rw [serve, remove, htype]
    rfl

/-! ### The store and the supply -/

/-- The store and the supply of identifiers. -/
def State.core (s : State σ) : σ × IdSupply := (s.store, s.ids)

theorem State.store_eq {s : State σ} {core : σ × IdSupply} (h : s.core = core) :
    s.store = core.1 := congrArg Prod.fst h

variable (a : Adapter σ) (type : String) (s : State σ)

/-- A fetch asks the store twice. -/
theorem core_fetch (ids : Option (List String)) (options : FetchOptions) :
    (a.fetch type ids options s).2.core =
      match a.schema.type? type with
      | none => s.core
      | some t =>
        if ids = some [] then s.core
        else
          let query := options.storeQuery t ids
          let found := a.backend.find (a.collection type) query options.findOptions s.store
          ((a.backend.count (a.collection type) query found.2).2, s.ids) := by
  rw [fetch]
  cases a.schema.type? type with
  | none => rfl
  | some t =>
    dsimp only
    split
    · rfl
    -- Every way out of the call is taken after the store has answered both times.
    · split
      · rfl
      · rfl
      · split
        · rfl
        · rfl

/-- An insertion encodes all records before it asks the store. -/
theorem core_insert (records : List Record) :
    (a.insert type records s).2.core =
      match a.schema.type? type with
      | none => s.core
      | some t =>
        if records.isEmpty then s.core
        else
          let encoded := Record.encodeAll t records s.ids
          ((a.backend.insertMany (a.collection type) encoded.1 s.store).2, encoded.2) := by
  rw [insert]
  cases a.schema.type? type with
  | none => rfl
  | some t =>
    dsimp only
    split
    · rfl
    -- The store refused the batch, for a taken identifier or for another cause, or
    -- took it, and the documents could be decoded or not.
    · split
      · split
        · rfl
        · rfl
      · split
        · rfl
        · rfl

theorem core_applyUpdate (collection : String) (u : Update) :
    (a.applyUpdate collection u s).2.core =
      if u.modifiers.isEmpty then s.core
      else
        ((a.backend.updateOne collection [(Document.idKey, .str u.id)] u.modifiers s.store).2,
          s.ids) := by
  rw [applyUpdate]
  split
  · rfl
  · rfl

theorem core_settle (collection : String) (outcomes : List (Except StoreError Nat)) :
    (settle type collection outcomes s).2.core = s.core := by
  rw [settle]
  split
  · rfl
  · rfl

/-- All updates are applied, also if one of them fails. -/
theorem core_mutate (updates : List Update) :
    (a.mutate type updates s).2.core =
      match a.schema.type? type with
      | none => s.core
      | some _ => (a.applyUpdates (a.collection type) updates s).2.core := by
  rw [mutate]
  cases a.schema.type? type with
  | none => rfl
  | some t => exact core_settle type _ _ _

theorem core_remove (ids : Option (List String)) :
    (a.remove type ids s).2.core =
      match a.schema.type? type with
      | none => s.core
      | some _ =>
        if ids = some [] then s.core
        else ((a.backend.deleteMany (a.collection type) (removalQuery ids) s.store).2, s.ids) := by
  rw [remove]
  cases a.schema.type? type with
  | none => rfl
  | some t =>
    dsimp only
    split
    · rfl
    · split
      · rfl
      · rfl

/-- A fetch changes no document of the store in memory. -/
theorem documents_fetch (schema : Schema) (config : Config) (fresh : Nat → String)
    (type : String) (ids : Option (List String)) (options : FetchOptions) (s : State Memory)
    (name : String) :
    ((inMemory schema config fresh).fetch type ids options s).2.store.documents name =
      s.store.documents name := by
  rw [State.store_eq (core_fetch (inMemory schema config fresh) type s ids options)]
  split
  · rfl
  · split
    · rfl
    · rfl

end RecordStore.Adapter
