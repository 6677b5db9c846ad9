/-
Fetch options described on one line.

* `Json.describe`, `Filter.describe` — the parts that stand in them;
* `FetchOptions.describe` — the options.
-/
import RecordStore.Adapter.Fetch
import RecordStore.Text.Describe

namespace RecordStore

namespace Json

mutual

/-- A value, with its kind. -/
def describe : Json → String
  | .null => "Null"
  | .bool b => Describe.named "Bool" [Describe.bool b]
  | .num n => Describe.named "Number" [String.ofList n.text]
  | .str s => Describe.named "String" [Describe.quoted s]
  | .arr items => "Array " ++ Describe.list (describeItems items)
  | .obj entries => "Object " ++ Describe.entries (describeEntries entries)

def describeItems : List Json → List String
  | [] => []
  | v :: rest => describe v :: describeItems rest

def describeEntries : List (String × Json) → Entries String
  | [] => []
  | (key, v) :: rest => (key, describe v) :: describeEntries rest

end

end Json

/-- A constraint, with its kind. -/
def Constraint.describe : Constraint → String
  | .anyOf values => Describe.named "AnyOf" [Describe.list (values.map Json.describe)]
  | .is value => Describe.named "Is" [value.describe]

/-- The two sides of a range. -/
def Bounds.describe (b : Bounds) : String :=
  Describe.named "RangeBounds"
    [Describe.option (b.low.map Json.describe), Describe.option (b.high.map Json.describe)]

namespace Filter

mutual

/-- A filter, with its kind. -/
def describe : Filter → String
  | .matching fields =>
    Describe.named "Match" [Describe.entries (fields.mapValues Constraint.describe)]
  | .presence fields => Describe.named "Exists" [Describe.entries (fields.mapValues Describe.bool)]
  | .range fields => Describe.named "Range" [Describe.entries (fields.mapValues Bounds.describe)]
  | .and children => Describe.named "And" [Describe.list (describeAll children)]
  | .or children => Describe.named "Or" [Describe.list (describeAll children)]
  | .not child => Describe.named "Not" [describe child]

def describeAll : List Filter → List String
  | [] => []
  | f :: rest => describe f :: describeAll rest

end

end Filter

/-- A direction by its short name. -/
def SortDirection.describe : SortDirection → String
  | .ascending => "Asc"
  | .descending => "Desc"

/-- A sort key with its parts. -/
def SortKey.describe (key : SortKey) : String :=
  Describe.record "SortSpec"
    [("field", Describe.quoted key.field), ("direction", key.direction.describe)]

/-- Fetch options; of a hook only that there is one. -/
def FetchOptions.describe (o : FetchOptions) : String :=
  Describe.record "FetchOptions"
    [("filter", o.filter.describe),
      ("sort", Describe.list (o.sort.map SortKey.describe)),
      ("fields", Describe.entries (o.fields.mapValues Describe.bool)),
      ("offset", Describe.option (o.offset.map Decimal.text)),
      ("limit", Describe.option (o.limit.map Decimal.text)),
      ("query", Describe.option (o.hook.map fun _ => Describe.quoted "<hook>"))]

end RecordStore
