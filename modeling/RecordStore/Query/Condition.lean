/-
Conditions on one resolved value.

A condition is an operator document, all of whose keys start with a dollar sign,
or any other value, which is then compared for equality.  A missing value is
`none`; it equals null.  A value equals another when it is that value or an array
that contains it.

* `Condition.equals` — equality with one value;
* `Condition.holds` — whether a value meets a condition;
* `Condition.isOperators` — which documents are operator documents.
-/
import RecordStore.Query.Compare

namespace RecordStore.Condition

/-- A key that names an operator. -/
def isOperatorKey (key : String) : Bool := key.toList.head? == some '$'

/-- An operator document: not empty, and every key names an operator. -/
def isOperators (d : Document) : Bool := !d.isEmpty && d.all fun p => isOperatorKey p.1

/-- The value is the expected one, or an array that contains it; a missing value
counts as null. -/
def equals (actual : Option Json) (expected : Json) : Bool :=
  match actual with
  | none => expected.isNull
  | some v => v == expected || (match v with
    | .arr items => items.contains expected
    | _ => false)

/-- The value equals one of the candidates; a candidate list that is no array has
none. -/
def among (actual : Option Json) (candidates : Json) : Bool :=
  match candidates with
  | .arr vs => vs.any (equals actual)
  | _ => false

/-- The value, or some item of it if it is an array, stands to the bound in an
accepted order. -/
def ordered (accept : Ordering → Bool) (actual : Option Json) (bound : Json) : Bool :=
  let accepted (v : Json) : Bool := (v.compare? bound).any accept
  match actual with
  | none => false
  | some (.arr items) => items.any accepted
  | some v => accepted v

/-- The operators that look at the value and the operand only, by name. -/
def compareBy (operator : String) (actual : Option Json) (operand : Json) : Bool :=
  match operator with
  | "$eq" => equals actual operand
  | "$ne" => !equals actual operand
  | "$in" => among actual operand
  | "$nin" => !among actual operand
  | "$gt" => ordered (· == .gt) actual operand
  | "$gte" => ordered (· != .lt) actual operand
  | "$lt" => ordered (· == .lt) actual operand
  | "$lte" => ordered (· != .gt) actual operand
  | "$exists" => actual.isSome == operand.truthy
  | _ => false

mutual

/-- Whether a value meets a condition. -/
def holds (actual : Option Json) : Json → Bool
  | .obj entries =>
    if isOperators entries then holdsAll actual entries else equals actual (.obj entries)
  | literal => equals actual literal

/-- Whether a value meets every operator.  `$not` takes a condition; an unknown
operator is met by nothing. -/
def holdsAll (actual : Option Json) : List (String × Json) → Bool
  | [] => true
  | (operator, operand) :: rest =>
    (if operator = "$not" then !holds actual operand else compareBy operator actual operand)
      && holdsAll actual rest

end

end RecordStore.Condition
