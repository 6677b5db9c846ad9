/-
Comparing values of one kind.

Numbers compare with numbers, text with text and truth values with each other;
values of different kinds do not compare.  Two signed 64-bit numbers compare
exactly, all others as doubles.

* `Number.compare` — the order of numbers;
* `Json.compare?` — the order of values of one kind;
* `Json.truthy` — whether a value counts as true.
-/
import RecordStore.Json.Basic

namespace RecordStore

/-- The order of numbers: exact for signed 64-bit numbers, else that of the
nearest doubles. -/
protected def Number.compare (m n : Number) : Ordering :=
  match m.signed?, n.signed? with
  | some a, some b => Ord.compare a b
  | _, _ => m.toDouble.compare n.toDouble

/-- The order of two values of one kind. -/
def Json.compare? : Json → Json → Option Ordering
  | .num m, .num n => some (m.compare n)
  | .str s, .str t => some (Ord.compare s t)
  | .bool a, .bool b => some (Ord.compare a b)
  | _, _ => none

/-- Whether a number is not zero. -/
def Number.isNonzero (n : Number) : Bool := !n.toDouble.isZero

/-- Whether a value counts as true: only `false`, zero and null do not. -/
def Json.truthy : Json → Bool
  | .bool b => b
  | .num n => n.isNonzero
  | .null => false
  | _ => true

end RecordStore
