/-
The adapter: records on one side, a document store on the other.

An adapter is a schema, a configuration and a backend; its state is that of the
backend, the supply of identifiers, the counters, and the log.  Every call takes a
state and gives an outcome with the next one.

* `Adapter.start` — the state of a new adapter;
* `Adapter.State.backendFailure`, `Adapter.State.decodeFailure` — how a call fails.
-/
import RecordStore.Config
import RecordStore.Log.Basic
import RecordStore.Metrics
import RecordStore.Record.Codec
import RecordStore.Schema.Basic
import RecordStore.Store.Backend

namespace RecordStore

/-- Why a call on an adapter fails. -/
inductive AdapterError where
  /-- An identifier is taken. -/
  | conflict
  | invalidBinary (cause : InvalidBinary)
  /-- The store fails for any other reason. -/
  | backend (cause : StoreError)
  | unknownType (type : String)
  | invalidConfig (location reason : String)

namespace AdapterError

def message : AdapterError → String
  | .conflict => "Conflict: Duplicate key."
  | .invalidBinary cause => cause.message
  | .backend cause => s!"Backend error: {cause.message}"
  | .unknownType type => s!"Unknown record type '{type}'"
  | .invalidConfig location reason => s!"Invalid configuration at {location}: {reason}"

/-- The stable name of the kind of error. -/
def code : AdapterError → String
  | .conflict => "DOCBRIDGE_CONFLICT"
  | .invalidBinary _ => InvalidBinary.code
  | .backend _ => "DOCBRIDGE_BACKEND"
  | .unknownType _ => "DOCBRIDGE_UNKNOWN_TYPE"
  | .invalidConfig .. => "DOCBRIDGE_CONFIG_INVALID"

/-- Whether an identifier is taken. -/
def isConflict : AdapterError → Bool
  | .conflict => true
  | _ => false

/-- A configuration that could not be loaded. -/
def ofFault (location : String) (fault : LoadFault) : AdapterError :=
  .invalidConfig location fault.reason

end AdapterError

/-- An adapter over a backend. -/
structure Adapter (σ : Type) where
  schema : Schema
  config : Config := {}
  backend : Backend σ

/-- The state of an adapter. -/
structure Adapter.State (σ : Type) where
  store : σ
  ids : IdSupply
  metrics : Metrics := {}
  log : Log := {}

namespace Adapter

variable {σ α : Type}

namespace State

/-- Changes the counters. -/
def count (s : State σ) (change : Metrics → Metrics) : State σ :=
  { s with metrics := change s.metrics }

/-- Logs an event. -/
def tell (s : State σ) (event : Event) (fields : List (String × String)) : State σ :=
  { s with log := s.log.tell event fields }

/-- The store failed in an operation on a type. -/
def backendFailure (s : State σ) (operation type : String) (e : StoreError) :
    Outcome AdapterError (State σ) α :=
  (.error (.backend e),
    (s.count .failed).tell .backendFailure
      [("operation", operation), ("type", type), ("error", e.message)])

/-- A document of a type holds something else than bytes. -/
def decodeFailure (s : State σ) (type : String) (e : InvalidBinary) :
    Outcome AdapterError (State σ) α :=
  (.error (.invalidBinary e),
    s.tell .binaryDecodeFailed [("type", type), ("field", e.field), ("found", e.found)])

end State

/-- The collection that holds the records of a type. -/
def collection (a : Adapter σ) (type : String) : String := a.config.collection type

/-- The state of a new adapter.  A configured log level other than the usual one
becomes the threshold of the log. -/
def start (a : Adapter σ) (store : σ) (ids : IdSupply) (log : Log := {}) : State σ :=
  let log := if a.config.logLevel = .warn then log else { log with threshold := a.config.logLevel }
  { store, ids, log := log.tell .adapterReady [("types", Decimal.text a.schema.size)] }

end Adapter

end RecordStore
