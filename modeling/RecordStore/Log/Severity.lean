/-
Severities of log lines, and the events that the adapter logs.

* `Severity.rank` — severities in ascending order;
* `Event.severity` — the severity that an event is logged at.
-/

namespace RecordStore

/-- How severe a log line is. -/
inductive Severity where
  /-- Detail of one operation. -/
  | trace
  /-- A stage of life. -/
  | info
  /-- A trouble that can be recovered from. -/
  | warn
  /-- The failure of an operation. -/
  | error
  /-- The end of everything. -/
  | fatal
  deriving DecidableEq, Repr

namespace Severity

def name : Severity → String
  | .trace => "TRACE"
  | .info => "INFO"
  | .warn => "WARN"
  | .error => "ERROR"
  | .fatal => "FATAL"

def ofName? : String → Option Severity
  | "TRACE" => some .trace
  | "INFO" => some .info
  | "WARN" => some .warn
  | "ERROR" => some .error
  | "FATAL" => some .fatal
  | _ => none

/-- The place of a severity in ascending order. -/
def rank : Severity → Nat
  | .trace => 0
  | .info => 1
  | .warn => 2
  | .error => 3
  | .fatal => 4

end Severity

/-- What the adapter tells about itself. -/
inductive Event where
  | adapterReady
  | fetchComplete
  | insertComplete
  | mutateComplete
  | removeComplete
  | insertConflict
  | backendFailure
  | binaryDecodeFailed
  deriving DecidableEq, Repr

namespace Event

def name : Event → String
  | .adapterReady => "ADAPTER_READY"
  | .fetchComplete => "FETCH_COMPLETE"
  | .insertComplete => "INSERT_COMPLETE"
  | .mutateComplete => "MUTATE_COMPLETE"
  | .removeComplete => "REMOVE_COMPLETE"
  | .insertConflict => "INSERT_CONFLICT"
  | .backendFailure => "BACKEND_FAILURE"
  | .binaryDecodeFailed => "BINARY_DECODE_FAILED"

/-- All events. -/
def all : List Event :=
  [.adapterReady, .fetchComplete, .insertComplete, .mutateComplete, .removeComplete,
    .insertConflict, .backendFailure, .binaryDecodeFailed]

/-- The event of a name. -/
def ofName? (name : String) : Option Event := all.find? fun e => e.name = name

/-- The severity that an event is logged at. -/
def severity : Event → Severity
  | .adapterReady => .info
  | .fetchComplete | .insertComplete | .mutateComplete | .removeComplete => .trace
  | .insertConflict => .warn
  | .backendFailure | .binaryDecodeFailed => .error

end Event

end RecordStore
