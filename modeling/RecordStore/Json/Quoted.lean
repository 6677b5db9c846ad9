/-
Quoted text: a character list between quotation marks, as JSON writes it.

Only the quotation mark, the backslash and the characters below the blank are
escaped; everything else stands for itself.  Reading takes every escape of JSON:
a piece is a character or a 16-bit unit, and `join` puts units together in pairs.
Reading says how much text it took, so that a caller can go on behind it.

* `Quoted.encode` — the quoted form of a text;
* `Quoted.scan` — the pieces of a quoted text, up to the closing mark;
* `Quoted.join` — the text of the pieces, if no half of a pair stands alone.
-/

namespace RecordStore.Quoted

/-- A hexadecimal digit, lower case. -/
def hexDigit (n : Nat) : Char := "0123456789abcdef".toList.getD n '0'

/-- One character between quotation marks. -/
def escape (c : Char) : List Char :=
  if c = '"' then ['\\', '"']
  else if c = '\\' then ['\\', '\\']
  else if c = '\x08' then ['\\', 'b']
  else if c = '\x0c' then ['\\', 'f']
  else if c = '\n' then ['\\', 'n']
  else if c = '\r' then ['\\', 'r']
  else if c = '\t' then ['\\', 't']
  else if c < ' ' then ['\\', 'u', '0', '0', hexDigit (c.toNat / 16), hexDigit (c.toNat % 16)]
  else [c]

/-- The text between quotation marks. -/
def encode (cs : List Char) : List Char := '"' :: cs.flatMap escape ++ ['"']

/-- What stands between quotation marks: a character, or a 16-bit unit given by number. -/
inductive Piece where
  | char (c : Char)
  | unit (u : Nat)

/-- The value of a hexadecimal digit. -/
def hexValue? (c : Char) : Option Nat :=
  if '0' ≤ c ∧ c ≤ '9' then some (c.toNat - '0'.toNat)
  else if 'a' ≤ c ∧ c ≤ 'f' then some (c.toNat - 'a'.toNat + 10)
  else if 'A' ≤ c ∧ c ≤ 'F' then some (c.toNat - 'A'.toNat + 10)
  else none

/-- The number written by four hexadecimal digits. -/
def hexUnit? (a b c d : Char) : Option Nat := do
  return (((← hexValue? a) * 16 + (← hexValue? b)) * 16 + (← hexValue? c)) * 16 + (← hexValue? d)

/-- The character that a letter behind a backslash stands for. -/
def unescape? : Char → Option Char
  | '"' => some '"'
  | '\\' => some '\\'
  | '/' => some '/'
  | 'b' => some '\x08'
  | 'f' => some '\x0c'
  | 'n' => some '\n'
  | 'r' => some '\r'
  | 't' => some '\t'
  | _ => none

/-- The pieces up to the closing quotation mark, and the number of characters
taken, the mark included.  Nothing if a piece is malformed or the mark is missing. -/
def scan : List Char → Option (List Piece × Nat)
  | [] => none
  | '"' :: _ => some ([], 1)
  | '\\' :: 'u' :: a :: b :: c :: d :: rest => do
    let u ← hexUnit? a b c d
    let (pieces, taken) ← scan rest
    return (.unit u :: pieces, taken + 6)
  | '\\' :: e :: rest => do
    let c ← unescape? e
    let (pieces, taken) ← scan rest
    return (.char c :: pieces, taken + 2)
  | c :: rest =>
    if c < ' ' ∨ c = '\\' then none
    else (scan rest).map fun (pieces, taken) => (.char c :: pieces, taken + 1)

/-- The text of the pieces.  A unit from `D800` to `DBFF` needs one from `DC00` to
`DFFF` behind it, and the other way round. -/
def join : List Piece → Option (List Char)
  | [] => some []
  | .char c :: rest => (join rest).map (c :: ·)
  | .unit u :: rest =>
    if 0xdc00 ≤ u ∧ u < 0xe000 then none
    else if 0xd800 ≤ u ∧ u < 0xdc00 then
      match rest with
      | .unit v :: rest' =>
        if 0xdc00 ≤ v ∧ v < 0xe000 then
          (join rest').map (Char.ofNat (0x10000 + (u - 0xd800) * 0x400 + (v - 0xdc00)) :: ·)
        else none
      | _ => none
    else (join rest).map (Char.ofNat u :: ·)

end RecordStore.Quoted
