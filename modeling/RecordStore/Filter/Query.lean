/-
The query of a filter.

A filter becomes a list of clauses, all of which must hold: leaves give one clause
each, `and` the clauses of its children, `or` one clause over whole queries, and
`not` negates the clauses of its child one by one.  A leaf about nothing gives no
clause, and fields that the record type does not declare are left out of presence
and range.

* `Filter.clauses` — the clauses of a filter;
* `Filter.query` — the query document: one clause as it is, several under `$and`.
-/
import RecordStore.Filter.Basic
import RecordStore.Schema.RecordType
import RecordStore.Query.Condition

namespace RecordStore

/-- A number of items as a bound: a whole number that is not negative, also one
written as a double.  A double of `2 ^ 64` counts as the largest 64-bit number. -/
def Number.length? : Number → Option Nat
  | .int n _ => if 0 ≤ n then some n.toNat else none
  | .float x =>
    let whole := Double.units x.bits / 2 ^ 1074
    if (x.negative && !x.isZero) || Double.units x.bits % 2 ^ 1074 ≠ 0 || 2 ^ 64 < whole then none
    else some (min whole (2 ^ 64 - 1))

/-- A number of items as a bound; what is no number of items is no bound. -/
def Json.length? : Json → Option Nat
  | .num n => n.length?
  | _ => none

namespace Filter

/-- The condition that a constraint puts on its field. -/
def constraintCondition : Constraint → Json
  | .anyOf values => .obj [("$in", .arr values)]
  | .is value => value

/-- The condition for the presence or absence of a field: other than its default
value, or equal to it. -/
def presenceCondition (f : Field) (expected : Bool) : Json :=
  if expected then .obj [("$ne", f.default)] else f.default

/-- The condition that a range puts on a plain field. -/
def rangeCondition (bounds : Bounds) : Json :=
  .obj (((bounds.low?.toList.map fun low => ("$gte", low))
    ++ bounds.high?.toList.map fun high => ("$lte", high)) ++ [("$ne", .null)])

/-- The conditions that a range puts on an array: at least `low` items if there is
an item before the place `low`, at most `high` if there is none at the place `high`. -/
def lengthConditions (field : String) (bounds : Bounds) : List (String × Json) :=
  let place (n : Nat) (expected : Bool) : String × Json :=
    (field ++ "." ++ Decimal.text n, .obj [("$exists", .bool expected)])
  let low := (bounds.low?.bind Json.length?).filter (0 < ·)
  let high := bounds.high?.bind Json.length?
  low.toList.map (fun n => place (n - 1) true) ++ high.toList.map (fun n => place n false)

/-- The entries that a range of one field adds to its clause. -/
def rangeEntries (t : RecordType) (field : String) (bounds : Bounds) : List (String × Json) :=
  match t.field? field with
  | none => []
  | some f => if f.isArray then lengthConditions field bounds else [(field, rangeCondition bounds)]

/-- The clause of field values. -/
def matchingClause (fields : Entries Constraint) : Document := fields.mapValues constraintCondition

/-- The clause of field presence. -/
def presenceClause (t : RecordType) (fields : Entries Bool) : Document :=
  fields.filterMap fun (field, expected) =>
    (t.field? field).map fun f => (field, presenceCondition f expected)

/-- The clause of ranges. -/
def rangeClause (t : RecordType) (fields : Entries Bounds) : Document :=
  Entries.ofList (fields.flatMap fun (field, bounds) => rangeEntries t field bounds)

/-- A clause, unless it says nothing. -/
def unlessEmpty (clause : Document) : List Document := if clause.isEmpty then [] else [clause]

/-- The negation of a clause: field by field, or as a whole if it has an operator. -/
def negate (clause : Document) : Document :=
  if clause.any fun p => Condition.isOperatorKey p.1 then [("$nor", .arr [.obj clause])]
  else clause.mapValues fun condition => .obj [("$not", condition)]

/-- The query that asks for all clauses. -/
def conjunction : List Document → Document
  | [] => []
  | [clause] => clause
  | clauses => [("$and", .arr (clauses.map .obj))]

mutual

/-- The clauses of a filter, all of which must hold. -/
def clauses (t : RecordType) : Filter → List Document
  | .matching fields => unlessEmpty (matchingClause fields)
  | .presence fields => unlessEmpty (presenceClause t fields)
  | .range fields => unlessEmpty (rangeClause t fields)
  | .and children => allClauses t children
  | .or children => if children.isEmpty then [] else [[("$or", .arr (branches t children))]]
  | .not child => (clauses t child).map negate

/-- The clauses of several filters. -/
def allClauses (t : RecordType) : List Filter → List Document
  | [] => []
  | f :: rest => clauses t f ++ allClauses t rest

/-- The queries of several filters. -/
def branches (t : RecordType) : List Filter → List Json
  | [] => []
  | f :: rest => .obj (conjunction (clauses t f)) :: branches t rest

end

/-- The query of a filter over records of a type. -/
def query (t : RecordType) (f : Filter) : Document := conjunction (clauses t f)

end Filter

end RecordStore
