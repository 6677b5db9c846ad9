/-
The log: one JSON object per line.

A line holds the event, the severity, and then its fields in the order of their
keys.  Lines below the threshold are dropped; errors and worse go to a stream of
their own.

* `Log.line` — the text of a line, line feed included;
* `Log.write` — writes a line if it is not below the threshold;
* `Log.tell` — writes an event at its own severity.
-/
import RecordStore.Json.Text
import RecordStore.Log.Severity

namespace RecordStore

/-- Where a line goes. -/
inductive Stream where
  | standard
  | errors
  deriving DecidableEq, Repr

/-- A threshold, and the lines written so far. -/
structure Log where
  threshold : Severity := .warn
  lines : List (Stream × String) := []

namespace Log

/-- The fields of a line in the order of their keys; equal keys keep their order. -/
def sortFields (fields : List (String × String)) : List (String × String) :=
  fields.mergeSort fun f g => f.1 ≤ g.1

/-- The text of a line. -/
def line (severity : Severity) (event : String) (fields : List (String × String)) : String :=
  let entries := ("event", event) :: ("severity", severity.name) :: sortFields fields
  String.ofList (Json.write (.obj (entries.map fun f => (f.1, .str f.2))) ++ ['\n'])

/-- Whether a line of this severity is written. -/
def enabled (log : Log) (severity : Severity) : Bool := log.threshold.rank ≤ severity.rank

/-- The stream of a severity: errors and worse are kept apart. -/
def stream (severity : Severity) : Stream :=
  if Severity.error.rank ≤ severity.rank then .errors else .standard

/-- Writes a line, unless it is below the threshold. -/
def write (log : Log) (severity : Severity) (event : String) (fields : List (String × String)) :
    Log :=
  if log.enabled severity then
    { log with lines := log.lines ++ [(stream severity, line severity event fields)] }
  else log

/-- Writes an event at its own severity. -/
def tell (log : Log) (event : Event) (fields : List (String × String)) : Log :=
  log.write event.severity event.name fields

end Log

end RecordStore
