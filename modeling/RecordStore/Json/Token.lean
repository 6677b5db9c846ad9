/-
The tokens of a JSON text.

A token that cannot be read ends the list: behind `Token.unreadable` nothing is
known.  A quoted text with half of a surrogate pair, and a numeral too large for
a double, are tokens without a value; whoever skips a value does not need one.

* `Numeral.scan` — a numeral at the head of a text, and its length;
* `Token.ofChars` — the tokens of a text.
-/
import RecordStore.Json.Quoted
import RecordStore.Json.Number

namespace RecordStore

/-- A token of JSON. -/
inductive Token where
  | openArray
  | closeArray
  | openObject
  | closeObject
  | comma
  | colon
  | null
  | bool (b : Bool)
  | num (n : Option Number)
  | str (s : Option String)
  | unreadable

namespace Numeral

/-- The decimal digits at the head of a text, as numbers. -/
def leadingDigits (cs : List Char) : List Nat :=
  (cs.takeWhile Char.isDigit).map fun c => c.toNat - '0'.toNat

/-- The digits behind a point, if there is a point; a point needs a digit. -/
def scanFraction : List Char → Option (Option (List Nat) × Nat)
  | '.' :: rest =>
    let ds := leadingDigits rest
    if ds.isEmpty then none else some (some ds, ds.length + 1)
  | _ => some (none, 0)

/-- The digits of an exponent behind its letter and sign. -/
def scanExponentDigits (negative : Bool) (before : Nat) (cs : List Char) :
    Option (Option Int × Nat) :=
  let ds := leadingDigits cs
  let n : Nat := ds.foldl (fun n d => n * 10 + d) 0
  if ds.isEmpty then none else some (some (if negative then -(n : Int) else n), before + ds.length)

/-- An exponent, if there is one; it needs a digit. -/
def scanExponent : List Char → Option (Option Int × Nat)
  | e :: rest =>
    if e = 'e' ∨ e = 'E' then
      match rest with
      | '+' :: rest' => scanExponentDigits false 2 rest'
      | '-' :: rest' => scanExponentDigits true 2 rest'
      | _ => scanExponentDigits false 1 rest
    else some (none, 0)
  | [] => some (none, 0)

/-- A numeral at the head of a text, and its length.  A leading zero stands alone
before the point. -/
def scan (cs : List Char) : Option (Numeral × Nat) :=
  let negative := cs.head? == some '-'
  let start := if negative then 1 else 0
  let whole := leadingDigits (cs.drop start)
  if whole.isEmpty || (whole.head? == some 0 && 1 < whole.length) then none
  else do
    let stop := start + whole.length
    let (fraction, n) ← scanFraction (cs.drop stop)
    let (exponent, m) ← scanExponent (cs.drop (stop + n))
    return ({ negative, whole, fraction, exponent }, stop + n + m)

end Numeral

namespace Token

/-- The blanks of JSON. -/
def isBlank (c : Char) : Bool := c = ' ' || c = '\t' || c = '\n' || c = '\r'

/-- The tokens of one character. -/
def ofMark? : Char → Option Token
  | '[' => some .openArray
  | ']' => some .closeArray
  | '\x7b' => some .openObject
  | '\x7d' => some .closeObject
  | ',' => some .comma
  | ':' => some .colon
  | _ => none

/-- The token at the head of a text that starts with no blank, and its length. -/
def scan (cs : List Char) : Option (Token × Nat) :=
  match cs with
  | 'n' :: 'u' :: 'l' :: 'l' :: _ => some (.null, 4)
  | 't' :: 'r' :: 'u' :: 'e' :: _ => some (.bool true, 4)
  | 'f' :: 'a' :: 'l' :: 's' :: 'e' :: _ => some (.bool false, 5)
  | '"' :: rest =>
    (Quoted.scan rest).map fun (pieces, taken) =>
      (.str ((Quoted.join pieces).map String.ofList), taken + 1)
  | c :: _ =>
    match ofMark? c with
    | some t => some (t, 1)
    | none => (Numeral.scan cs).map fun (numeral, taken) => (.num numeral.value?, taken)
  | [] => none

/-- The tokens of a text whose first `skip` characters belong to a token already
read. -/
def ofCharsFrom (skip : Nat) : List Char → List Token
  | [] => []
  | c :: rest =>
    match skip with
    | skip + 1 => ofCharsFrom skip rest
    | 0 =>
      if isBlank c then ofCharsFrom 0 rest
      else
        match scan (c :: rest) with
        | some (t, taken) => t :: ofCharsFrom (taken - 1) rest
        | none => [.unreadable]

/-- The tokens of a text. -/
def ofChars (cs : List Char) : List Token := ofCharsFrom 0 cs

end Token

end RecordStore
