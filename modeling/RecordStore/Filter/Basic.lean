/-
Filters: which records are meant, said without the query language of a store.

A leaf speaks of fields: of their values, their presence, or the range they lie in.
Filters combine by `and`, `or` and `not`; the empty `and` means every record.

* `Filter` — the tree;
* `Bounds.low?`, `Bounds.high?` — the sides of a range that are not open;
* `Filter.normalize` — the filter with the two ways of writing some leaves made one.
-/
import RecordStore.Json.Basic

namespace RecordStore

/-- What a field must equal. -/
inductive Constraint where
  /-- One of the values. -/
  | anyOf (values : List Json)
  /-- The value. -/
  | is (value : Json)

namespace Constraint

/-- A list means one of its items, any other value itself. -/
def ofJson : Json → Constraint
  | .arr values => .anyOf values
  | v => .is v

def toJson : Constraint → Json
  | .anyOf values => .arr values
  | .is v => v

/-- A constraint with an exact list made a list of values. -/
def normalize : Constraint → Constraint
  | .is (.arr values) => .anyOf values
  | c => c

end Constraint

/-- A range, ends included.  A missing bound and null leave a side open. -/
structure Bounds where
  low : Option Json := none
  high : Option Json := none

namespace Bounds

/-- A bound, unless it is null. -/
def limit? (bound : Option Json) : Option Json := bound.filter fun v => !v.isNull

/-- The lower bound, if that side is not open. -/
def low? (b : Bounds) : Option Json := limit? b.low

/-- The upper bound, if that side is not open. -/
def high? (b : Bounds) : Option Json := limit? b.high

/-- Bounds with open sides made missing bounds. -/
def normalize (b : Bounds) : Bounds := { low := b.low?, high := b.high? }

def toJson (b : Bounds) : Json := .arr [b.low.getD .null, b.high.getD .null]

end Bounds

/-- A filter of records. -/
inductive Filter where
  /-- Fields have values. -/
  | matching (fields : Entries Constraint)
  /-- Fields are present, or absent: null, or without items. -/
  | presence (fields : Entries Bool)
  /-- Fields lie in a range: the values of plain fields, the lengths of arrays. -/
  | range (fields : Entries Bounds)
  | and (children : List Filter)
  | or (children : List Filter)
  | not (child : Filter)

namespace Filter

/-- The filter that every record passes. -/
def all : Filter := .and []

/-- A field equals a value, or one of the items of a list. -/
def equals (field : String) (value : Json) : Filter := .matching [(field, .ofJson value)]

/-- A field equals exactly this value, also a list. -/
def equalsExactly (field : String) (value : Json) : Filter := .matching [(field, .is value)]

/-- A field equals one of the values. -/
def anyOf (field : String) (values : List Json) : Filter := .matching [(field, .anyOf values)]

/-- A field is present, or is not. -/
def present (field : String) (expected : Bool) : Filter := .presence [(field, expected)]

/-- A field lies between two bounds. -/
def between (field : String) (low high : Option Json) : Filter := .range [(field, { low, high })]

mutual

/-- The filter with every list constraint written as `anyOf` and every open side
of a range as a missing bound. -/
def normalize : Filter → Filter
  | .matching fields => .matching (fields.mapValues Constraint.normalize)
  | .presence fields => .presence fields
  | .range fields => .range (fields.mapValues Bounds.normalize)
  | .and children => .and (normalizeAll children)
  | .or children => .or (normalizeAll children)
  | .not child => .not (normalize child)

def normalizeAll : List Filter → List Filter
  | [] => []
  | f :: rest => normalize f :: normalizeAll rest

end

end Filter

end RecordStore
