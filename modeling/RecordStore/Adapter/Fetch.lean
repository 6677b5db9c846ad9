/-
Fetching records.

A fetch asks the store for a page of the documents that a query selects and for the
number of all of them.  The query comes from the filter; the caller may replace it,
and it may be restricted to identifiers.

* `FetchOptions` — what is fetched, and how it is shown;
* `restrictToIds` — a query for documents with one of several identifiers;
* `Adapter.fetch` — the call.
-/
import RecordStore.Adapter.Basic
import RecordStore.Filter.Query

namespace RecordStore

/-- What is fetched, and how it is shown. -/
structure FetchOptions where
  filter : Filter := .all
  sort : List SortKey := []
  /-- The fields shown or left out. -/
  fields : Entries Bool := []
  offset : Option Nat := none
  limit : Option Nat := none
  /-- Looks at the query of the filter and may replace it. -/
  hook : Option (Document → Option Document) := none

/-- The records of a fetch, and the number of matches without offset and limit. -/
structure FetchResult where
  records : List Record := []
  count : Nat := 0

/-- A query for those documents of another one that have one of the identifiers. -/
def restrictToIds (query : Document) (ids : List String) : Document :=
  let membership : Json := .obj [("$in", .arr (ids.map .str))]
  if query.contains Document.idKey then
    [("$and", .arr [.obj query, .obj [(Document.idKey, membership)]])]
  else query.insert Document.idKey membership

namespace FetchOptions

/-- A flag of a projection. -/
def flag (shown : Bool) : Json := if shown then .ofNat 1 else .ofNat 0

/-- What the store is asked for a page. -/
def findOptions (o : FetchOptions) : FindOptions :=
  { projection := o.fields.mapValues flag, sort := o.sort, skip := o.offset, limit := o.limit }

/-- The query after the caller has seen it. -/
def hooked (o : FetchOptions) (query : Document) : Document :=
  match o.hook with
  | some hook => (hook query).getD query
  | none => query

/-- The query that the store is asked. -/
def storeQuery (o : FetchOptions) (t : RecordType) (ids : Option (List String)) : Document :=
  let query := o.hooked (o.filter.query t)
  match ids with
  | some ids => restrictToIds query ids
  | none => query

end FetchOptions

namespace Adapter

variable {σ : Type}

/-- The query that the caller's hook is shown, if the call gets that far: the type is
known, and the list of identifiers is not empty. -/
def queryShown? (a : Adapter σ) (type : String) (ids : Option (List String))
    (options : FetchOptions) : Option Document :=
  if ids = some [] || options.hook.isNone then none
  else (a.schema.type? type).map fun t => options.filter.query t

/-- The records of a type that pass a filter, also restricted to identifiers, and
their number. -/
def fetch (a : Adapter σ) (type : String) (ids : Option (List String)) (options : FetchOptions)
    (s : State σ) : Outcome AdapterError (State σ) FetchResult :=
  match a.schema.type? type with
  | none => (.error (.unknownType type), s)
  | some t =>
    if ids = some [] then (.ok {}, s.count .shortCircuited)
    else
      let collection := a.collection type
      let query := options.storeQuery t ids
      let (found, store) := a.backend.find collection query options.findOptions s.store
      let (counted, store) := a.backend.count collection query store
      let s := { s with store }
      match found, counted with
      | .error e, _ => s.backendFailure "fetch" type e
      | .ok _, .error e => s.backendFailure "fetch" type e
      | .ok documents, .ok count =>
        match Record.decodeAll t documents with
        | .error e => s.decodeFailure t.name e
        | .ok records =>
          (.ok { records, count },
            (s.count (·.fetched records.length)).tell .fetchComplete
              [("type", type), ("collection", collection),
                ("records", Decimal.text records.length), ("count", Decimal.text count)])

end Adapter

end RecordStore
