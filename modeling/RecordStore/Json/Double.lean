/-
Finite 64-bit floating-point numbers, without any machine arithmetic.

A `Double` is a sign and a magnitude; the magnitude is the word below the sign
bit, so a larger word is a larger number.  Every magnitude is a whole multiple
of the least positive one (`units`), so sums, products and quotients are exact
fractions of whole numbers, and `nearestBits` rounds such a fraction once, to
nearest and ties to even.

* `Double.value` — the number a double stands for, in units;
* `Double.compare` — the numeric order, in which the two zeros are equal;
* `Double.totalCompare` — the order of the words, with `-0` before `0`;
* `Double.ofInt`, `Double.add`, `Double.scale10` — the rounded operations.
-/

-- Powers of whole numbers are those of the core library, whatever else is imported.
attribute [instance (20000), default_instance 20000] instPowNat

namespace RecordStore

/-- The word of infinity, the first magnitude that is not finite. -/
def Double.infinityBits : Nat := 0x7ff0000000000000

/-- A finite 64-bit float: its sign, and the 63 bits below the sign. -/
structure Double where
  negative : Bool
  bits : Nat
  finite : bits < Double.infinityBits := by decide
  deriving DecidableEq, Repr

namespace Double

/-- The whole multiple of `2 ^ -1074` that a magnitude word stands for. -/
def units (bits : Nat) : Nat :=
  if bits / 2 ^ 52 = 0 then bits else (bits % 2 ^ 52 + 2 ^ 52) * 2 ^ (bits / 2 ^ 52 - 1)

/-- The quotient rounded to nearest, a half going to the even neighbour. -/
def divHalfEven (num den : Nat) : Nat :=
  let quotient := num / den
  let twice := 2 * (num % den)
  if twice < den then quotient
  else if den < twice then quotient + 1
  else quotient + quotient % 2

/-- The magnitude word nearest to `num / den` units.  Beyond the largest finite
double the answer is at least `infinityBits`. -/
def nearestBits (num den : Nat) : Nat :=
  let exponent := (num / den).log2 - 52
  exponent * 2 ^ 52 + divHalfEven num (den * 2 ^ exponent)

/-- The double with this sign and magnitude word, if the word is finite. -/
def ofBits? (negative : Bool) (bits : Nat) : Option Double :=
  if h : bits < infinityBits then some { negative, bits, finite := h } else none

/-- The double with this sign and magnitude word, at most the largest finite one. -/
def saturate (negative : Bool) (bits : Nat) : Double :=
  if h : bits < infinityBits then { negative, bits, finite := h }
  else { negative, bits := infinityBits - 1 }

/-- Zero with a sign. -/
def zero (negative : Bool := false) : Double := { negative, bits := 0 }

def isZero (x : Double) : Bool := x.bits == 0

/-- The number `x` stands for, in units of `2 ^ -1074`. -/
def value (x : Double) : Int :=
  if x.negative then -(units x.bits : Int) else units x.bits

/-- A number with the same order as `value`: the signed magnitude word. -/
def key (x : Double) : Int :=
  if x.negative then -(x.bits : Int) else x.bits

/-- The order of the numbers: the two zeros are equal. -/
protected def compare (x y : Double) : Ordering :=
  Ord.compare x.key y.key

/-- The order that also puts `-0` before `0`. -/
def totalCompare (x y : Double) : Ordering :=
  let rank (z : Double) : Int := if z.negative then -(z.bits : Int) - 1 else z.bits
  Ord.compare (rank x) (rank y)

/-- Equality of numbers: `0 = -0`. -/
def same (x y : Double) : Bool := x.key == y.key

/-- The double nearest to a whole number. -/
def ofInt (n : Int) : Double :=
  saturate (n < 0) (nearestBits (n.natAbs * 2 ^ 1074) 1)

/-- The rounded sum, or nothing if it is too large.  A zero sum is negative only
if both terms are. -/
def add (x y : Double) : Option Double :=
  let sum := x.value + y.value
  if sum = 0 then some (zero (x.negative && y.negative))
  else ofBits? (sum < 0) (nearestBits sum.natAbs 1)

/-- The rounded product of two magnitudes. -/
def mulBits (x y : Nat) : Nat := nearestBits (units x * units y) (2 ^ 1074)

/-- The rounded quotient of two magnitudes. -/
def divBits (x y : Nat) : Nat := nearestBits (units x * 2 ^ 1074) (units y)

/-- The magnitude word nearest to a whole number. -/
def natBits (n : Nat) : Nat := nearestBits (n * 2 ^ 1074) 1

/-- Divides by a power of ten, in steps of at most `10 ^ 308`, each rounded. -/
def shrink10 (bits exponent : Nat) : Nat :=
  if exponent ≤ 308 then divBits bits (natBits (10 ^ exponent))
  else if bits = 0 then 0
  else shrink10 (divBits bits (natBits (10 ^ 308))) (exponent - 308)
termination_by exponent

/-- `significand * 10 ^ exponent`: the significand is rounded first and the
result once more.  Nothing if the number is too large. -/
def scale10 (negative : Bool) (significand : Nat) (exponent : Int) : Option Double :=
  let start := natBits significand
  if exponent < 0 then ofBits? negative (shrink10 start exponent.natAbs)
  else if exponent ≤ 308 then ofBits? negative (mulBits start (natBits (10 ^ exponent.natAbs)))
  else if start = 0 then some (zero negative)
  else none

end Double

end RecordStore
