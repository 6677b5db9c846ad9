/-
The shortest decimal text of a double.

The reals that round to a double form an interval around it, ends included when
the word is even.  `shortestDigits` looks for a decimal in that interval on
coarser grids first, so the first hit has the fewest digits, and of two hits on
one grid it takes the nearer.

* `Decimal.shortestDigits` — the digits and the exponent of the chosen decimal;
* `Decimal.layout` — where the point goes: plain notation for exponents from
  `-5` to `15`, scientific notation outside;
* `Double.text` — the text of a double.
-/
import RecordStore.Json.Double

namespace RecordStore

namespace Decimal

/-- The decimal digits of a whole number, most significant first. -/
def digits (n : Nat) : List Char := Nat.toDigits 10 n

/-- A whole number in decimal. -/
def text (n : Nat) : String := String.ofList (digits n)

/-- The exponent of the leading digit of the magnitude `bits`, which is not zero. -/
def leadingExponent (bits : Nat) : Int :=
  (digits (Double.units bits * 10 ^ 400 / 2 ^ 1074)).length - 401

/-- A multiple of `10 ^ exponent` that rounds to `bits`, the nearest to it: the
multiplier, if there is one. -/
def onGrid (bits : Nat) (exponent : Int) : Option Nat :=
  let refine := 10 ^ (-exponent).toNat
  let step := 10 ^ exponent.toNat * 2 ^ 1075
  let here := 2 * Double.units bits * refine
  let low := (Double.units (bits - 1) + Double.units bits) * refine
  let high := (Double.units bits + Double.units (bits + 1)) * refine
  let rounds (m : Nat) : Bool :=
    if bits % 2 = 0 then low ≤ m * step && m * step ≤ high
    else low < m * step && m * step < high
  let below := here / step
  match rounds below, rounds (below + 1) with
  | true, true =>
    let twice := 2 * (here - below * step)
    some (if twice < step || (twice == step && below % 2 == 0) then below else below + 1)
  | true, false => some below
  | false, true => some (below + 1)
  | false, false => none

/-- The fewest digits that read back as the magnitude `bits`, and the exponent of
the first of them. -/
def shortestDigits (bits : Nat) : List Char × Int :=
  let lead := leadingExponent bits
  let found := (List.range 17).findSome? fun i : Nat =>
    (onGrid bits (lead - i)).map fun m => (digits m, lead - i)
  match found with
  | none => (['0'], 0)
  | some (ds, exponent) =>
    ((ds.reverse.dropWhile (· == '0')).reverse, exponent + ds.length - 1)

/-- Digits with a point: plain when the first digit stands at an exponent from
`-5` to `15`, else scientific with a signed exponent. -/
def layout (ds : List Char) (exponent : Int) : List Char :=
  if -5 ≤ exponent ∧ exponent < 0 then
    ['0', '.'] ++ List.replicate (-exponent - 1).toNat '0' ++ ds
  else if 0 ≤ exponent ∧ exponent ≤ 15 then
    let whole := exponent.toNat + 1
    if ds.length ≤ whole then ds ++ List.replicate (whole - ds.length) '0' ++ ['.', '0']
    else ds.take whole ++ ['.'] ++ ds.drop whole
  else
    let fraction := if ds.length ≤ 1 then [] else '.' :: ds.drop 1
    ds.take 1 ++ fraction ++ ['e', if exponent < 0 then '-' else '+'] ++ digits exponent.natAbs

end Decimal

/-- The shortest text that reads back as the double, with a point or an exponent. -/
def Double.text (x : Double) : List Char :=
  let magnitude :=
    if x.bits = 0 then Decimal.layout ['0'] 0
    else
      let (ds, exponent) := Decimal.shortestDigits x.bits
      Decimal.layout ds exponent
  if x.negative then '-' :: magnitude else magnitude

end RecordStore
