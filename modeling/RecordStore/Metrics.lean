/-
Counters of one adapter.  They are 64-bit words and wrap around.

* `Metrics.fetched` and its likes — what one call adds;
* `Metrics.entries`, `Metrics.text` — the counters as an object and as its text.
-/
import RecordStore.Json.Text

namespace RecordStore

/-- The counters. -/
structure Metrics where
  /-- Searches that were answered. -/
  fetches : UInt64 := 0
  recordsFetched : UInt64 := 0
  /-- Batches that were stored. -/
  inserts : UInt64 := 0
  recordsInserted : UInt64 := 0
  /-- Batches refused because an identifier was taken. -/
  conflicts : UInt64 := 0
  mutations : UInt64 := 0
  recordsMutated : UInt64 := 0
  removals : UInt64 := 0
  recordsRemoved : UInt64 := 0
  /-- Calls, and updates in a call, that were answered without the store. -/
  shortCircuits : UInt64 := 0
  backendErrors : UInt64 := 0
  deriving DecidableEq, Repr

namespace Metrics

def fetched (m : Metrics) (records : Nat) : Metrics :=
  { m with
    fetches := m.fetches + 1
    recordsFetched := m.recordsFetched + .ofNat records }

def inserted (m : Metrics) (records : Nat) : Metrics :=
  { m with
    inserts := m.inserts + 1
    recordsInserted := m.recordsInserted + .ofNat records }

def mutated (m : Metrics) (records : Nat) : Metrics :=
  { m with
    mutations := m.mutations + 1
    recordsMutated := m.recordsMutated + .ofNat records }

def removed (m : Metrics) (records : Nat) : Metrics :=
  { m with
    removals := m.removals + 1
    recordsRemoved := m.recordsRemoved + .ofNat records }

def conflicted (m : Metrics) : Metrics := { m with conflicts := m.conflicts + 1 }

def shortCircuited (m : Metrics) : Metrics := { m with shortCircuits := m.shortCircuits + 1 }

def failed (m : Metrics) : Metrics := { m with backendErrors := m.backendErrors + 1 }

/-- The counters by name. -/
def entries (m : Metrics) : Document :=
  [("backend_errors", .ofWord m.backendErrors),
    ("conflicts", .ofWord m.conflicts),
    ("fetches", .ofWord m.fetches),
    ("inserts", .ofWord m.inserts),
    ("mutations", .ofWord m.mutations),
    ("records_fetched", .ofWord m.recordsFetched),
    ("records_inserted", .ofWord m.recordsInserted),
    ("records_mutated", .ofWord m.recordsMutated),
    ("records_removed", .ofWord m.recordsRemoved),
    ("removals", .ofWord m.removals),
    ("short_circuits", .ofWord m.shortCircuits)]

/-- The text of the counters. -/
def text (m : Metrics) : String := (Json.obj m.entries).text

end Metrics

end RecordStore
