/-
JSON numbers: whole numbers of 64 bits, signed or unsigned, and doubles.

A whole number and a double are never equal, even where they stand for the same
number; each kind is compared by value.  A `Numeral` is a number as it is
written, and `Numeral.value?` says which number that is: a numeral without point
and exponent is a whole number when it fits, everything else a double.

* `Number.InRange` — the whole numbers that fit: `-2^63 ≤ n < 2^64`;
* `Number.same` — equality;
* `Numeral.value?` — the number a numeral stands for, if it is not too large.
-/
import RecordStore.Json.Decimal

namespace RecordStore

/-- The whole numbers a JSON number can hold exactly. -/
def Number.InRange (n : Int) : Prop := -2 ^ 63 ≤ n ∧ n < 2 ^ 64

instance (n : Int) : Decidable (Number.InRange n) :=
  inferInstanceAs (Decidable (_ ∧ _))

/-- A JSON number. -/
inductive Number where
  | int (n : Int) (inRange : Number.InRange n := by decide)
  | float (x : Double)
  deriving DecidableEq

namespace Number

/-- The whole number as a JSON number, if it fits. -/
def ofInt? (n : Int) : Option Number :=
  if h : InRange n then some (.int n h) else none

/-- The signed 64-bit value, for a whole number that has one. -/
def signed? : Number → Option Int
  | .int n _ => if n < 2 ^ 63 then some n else none
  | .float _ => none

/-- The unsigned 64-bit value, for a whole number that has one. -/
def unsigned? : Number → Option Nat
  | .int n _ => if 0 ≤ n then some n.toNat else none
  | .float _ => none

/-- The nearest double. -/
def toDouble : Number → Double
  | .int n _ => Double.ofInt n
  | .float x => x

/-- Equality: within one kind, by value. -/
def same : Number → Number → Bool
  | .int m _, .int n _ => m == n
  | .float x, .float y => x.same y
  | _, _ => false

/-- The text of a number. -/
def text : Number → List Char
  | .int n _ => if n < 0 then '-' :: Decimal.digits n.natAbs else Decimal.digits n.natAbs
  | .float x => x.text

end Number

/-- A number as it is written: sign, digits before the point, digits after it,
and the exponent. -/
structure Numeral where
  negative : Bool
  whole : List Nat
  fraction : Option (List Nat) := none
  exponent : Option Int := none

namespace Numeral

/-- Appends digits to a significand while it fits 64 bits; the digits left over. -/
def gather (significand : Nat) : List Nat → Nat × List Nat
  | [] => (significand, [])
  | d :: ds =>
    if significand * 10 + d < 2 ^ 64 then gather (significand * 10 + d) ds
    else (significand, d :: ds)

/-- The number written.  Digits beyond a 64-bit significand count only by their
place; a number too large for a double has no value. -/
def value? (t : Numeral) : Option Number :=
  let (whole, unread) := gather 0 t.whole
  if t.fraction.isNone && t.exponent.isNone && unread.isEmpty
      && !(t.negative && (whole == 0 || 2 ^ 63 < whole)) then
    Number.ofInt? (if t.negative then -(whole : Int) else whole)
  else
    let decimals := t.fraction.getD []
    let (significand, dropped) := gather whole decimals
    let places : Int := unread.length - (decimals.length - dropped.length : Nat)
    (Double.scale10 t.negative significand (places + t.exponent.getD 0)).map .float

end Numeral

end RecordStore
