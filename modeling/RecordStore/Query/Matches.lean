/-
Queries: which documents a query document selects.

Every entry of a query must hold.  `$and`, `$or` and `$nor` take an array of
queries, of which everything that is no object is passed over; any other key is a
path, and its value a condition on what the path leads to.

* `Query.selects` — whether a query selects a document;
* `Query.meets` — whether a document meets one entry of a query.
-/
import RecordStore.Query.Path
import RecordStore.Query.Condition

namespace RecordStore.Query

mutual

/-- Whether a document meets every entry of a query. -/
def selects (d : Document) : List (String × Json) → Bool
  | [] => true
  | (key, condition) :: rest => meets d key condition && selects d rest

/-- Whether a document meets one entry of a query. -/
def meets (d : Document) (key : String) : Json → Bool
  | .arr queries =>
    if key = "$and" then selectedByAll d queries
    else if key = "$or" then selectedByAny d queries
    else if key = "$nor" then !selectedByAny d queries
    else Condition.holds (Document.resolve? d key) (.arr queries)
  | condition =>
    if key = "$and" then true
    else if key = "$or" then false
    else if key = "$nor" then true
    else Condition.holds (Document.resolve? d key) condition

/-- Whether every query of a list selects the document. -/
def selectedByAll (d : Document) : List Json → Bool
  | [] => true
  | .obj query :: rest => selects d query && selectedByAll d rest
  | _ :: rest => selectedByAll d rest

/-- Whether some query of a list selects the document. -/
def selectedByAny (d : Document) : List Json → Bool
  | [] => false
  | .obj query :: rest => selects d query || selectedByAny d rest
  | _ :: rest => selectedByAny d rest

end

end RecordStore.Query
