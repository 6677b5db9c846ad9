/-
The configuration of an adapter: the collections of record types, how identifiers
are made, and the threshold of the log.

In JSON it is an object with the keys `type_map`, `id_strategy` and `log_level`,
any of which may be missing, or a list of up to three values in that order.

* `Config.collection` — the collection of a record type;
* `Config.read?` — a configuration as it is written;
* `Config.load`, `Config.loadFile` — a configuration from a text or a file.
-/
import RecordStore.Entries
import RecordStore.Json.Load
import RecordStore.Log.Severity
import RecordStore.Record.Ids

namespace RecordStore

/-- The configuration of an adapter. -/
structure Config where
  /-- The collections of types that are not stored under their own name. -/
  typeMap : Entries String := []
  idStrategy : IdStrategy := .random
  logLevel : Severity := .warn
  deriving DecidableEq

namespace Config

/-- The collection that holds the records of a type. -/
def collection (c : Config) (type : String) : String := (c.typeMap.get? type).getD type

/-- What an object has said about a configuration so far. -/
structure Draft where
  typeMap : Option (Entries String) := none
  idStrategy : Option IdStrategy := none
  logLevel : Option Severity := none

/-- A type and its collection. -/
def readCollection? (entry : Option String × Source) : Option (String × String) := do
  return (← entry.1, ← entry.2.text?)

/-- The collections of types; the last one of a repeated type counts. -/
def readTypeMap? : Source → Option (Entries String)
  | .obj entries true => (entries.mapM readCollection?).map Entries.ofList
  | _ => none

def readStrategy? (s : Source) : Option IdStrategy := s.choice?.bind IdStrategy.ofName?

def readLevel? (s : Source) : Option Severity := s.choice?.bind Severity.ofName?

/-- Takes one entry of the object in: a known key once, any other key at will. -/
def Draft.read? (d : Draft) (entry : Option String × Source) : Option Draft := do
  let key ← entry.1
  let value := entry.2
  match key with
  | "type_map" => return { d with typeMap := ← Source.fill? d.typeMap (readTypeMap? value) }
  | "id_strategy" =>
    return { d with idStrategy := ← Source.fill? d.idStrategy (readStrategy? value) }
  | "log_level" => return { d with logLevel := ← Source.fill? d.logLevel (readLevel? value) }
  | _ => if value.isWhole then return d else none

/-- The configuration, with what was not said at its usual value. -/
def Draft.config (d : Draft) : Config :=
  { typeMap := d.typeMap.getD []
    idStrategy := d.idStrategy.getD .random
    logLevel := d.logLevel.getD .warn }

/-- A configuration as it is written. -/
def read? : Source → Option Config
  | .obj entries true => (entries.foldlM Draft.read? {}).map Draft.config
  | .arr [] true => some {}
  | .arr [t] true => do return { typeMap := ← readTypeMap? t }
  | .arr [t, i] true => do return { typeMap := ← readTypeMap? t, idStrategy := ← readStrategy? i }
  | .arr [t, i, l] true => do
    return {
      typeMap := ← readTypeMap? t
      idStrategy := ← readStrategy? i
      logLevel := ← readLevel? l }
  | _ => none

/-- The configuration in a text. -/
def load (text : String) : Except LoadFault Config := loadText read? text

/-- The configuration in a file. -/
def loadFile (contents : Option ByteArray) : Except LoadFault Config :=
  RecordStore.loadFile read? contents

end Config

end RecordStore
