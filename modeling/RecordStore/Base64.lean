/-
Base64: three bytes as four symbols of six bits.

Reading is strict: the padding must be there, and the bits that a short last group
leaves over must be zero.  There are two alphabets, which differ in their last two
symbols.

* `Base64.encode`, `Base64.decode` — with the standard alphabet and padding;
* `Base64.encodeUrl` — with the alphabet for addresses and without padding.
-/

namespace RecordStore.Base64

/-- The symbol of a six-bit number; `last` are the symbols of 62 and 63. -/
def symbol (last : Char × Char) (n : Nat) : Char :=
  if n < 26 then Char.ofNat ('A'.toNat + n)
  else if n < 52 then Char.ofNat ('a'.toNat + (n - 26))
  else if n < 62 then Char.ofNat ('0'.toNat + (n - 52))
  else if n = 62 then last.1
  else last.2

/-- The standard symbols of 62 and 63. -/
def standard : Char × Char := ('+', '/')

/-- The symbols of 62 and 63 in addresses. -/
def address : Char × Char := ('-', '_')

/-- The number of a symbol of the standard alphabet. -/
def value? (c : Char) : Option Nat :=
  if 'A' ≤ c ∧ c ≤ 'Z' then some (c.toNat - 'A'.toNat)
  else if 'a' ≤ c ∧ c ≤ 'z' then some (c.toNat - 'a'.toNat + 26)
  else if '0' ≤ c ∧ c ≤ '9' then some (c.toNat - '0'.toNat + 52)
  else if c = '+' then some 62
  else if c = '/' then some 63
  else none

/-- The symbols of a byte string; a short last group is followed by `padding`, one
for each byte missing. -/
def encodeWith (last : Char × Char) (padding : List Char) : List UInt8 → List Char
  | [] => []
  | [a] =>
    let n := a.toNat * 16
    symbol last (n / 64) :: symbol last (n % 64) :: (padding ++ padding)
  | [a, b] =>
    let n := (a.toNat * 256 + b.toNat) * 4
    symbol last (n / 4096) :: symbol last (n / 64 % 64) :: symbol last (n % 64) :: padding
  | a :: b :: c :: rest =>
    let n := (a.toNat * 256 + b.toNat) * 256 + c.toNat
    symbol last (n / 262144) :: symbol last (n / 4096 % 64) :: symbol last (n / 64 % 64) ::
      symbol last (n % 64) :: encodeWith last padding rest

/-- The text of a byte string, padded to whole groups. -/
def encode (bytes : List UInt8) : List Char := encodeWith standard ['='] bytes

/-- The text of a byte string for addresses, without padding. -/
def encodeUrl (bytes : List UInt8) : List Char := encodeWith address [] bytes

/-- The byte of one group that holds a single byte. -/
def decodeOne (a b : Char) : Option (List UInt8) := do
  let n := (← value? a) * 64 + (← value? b)
  if n % 16 = 0 then return [UInt8.ofNat (n / 16)] else none

/-- The bytes of one group that holds two bytes. -/
def decodeTwo (a b c : Char) : Option (List UInt8) := do
  let n := ((← value? a) * 64 + (← value? b)) * 64 + (← value? c)
  if n % 4 = 0 then return [UInt8.ofNat (n / 1024), UInt8.ofNat (n / 4 % 256)] else none

/-- The bytes of a whole group. -/
def decodeThree (a b c d : Char) : Option (List UInt8) := do
  let n := (((← value? a) * 64 + (← value? b)) * 64 + (← value? c)) * 64 + (← value? d)
  return [UInt8.ofNat (n / 65536), UInt8.ofNat (n / 256 % 256), UInt8.ofNat (n % 256)]

/-- The bytes of a text. -/
def decode : List Char → Option (List UInt8)
  | [] => some []
  | [a, b, '=', '='] => decodeOne a b
  | [a, b, c, '='] => decodeTwo a b c
  | a :: b :: c :: d :: rest => do return (← decodeThree a b c d) ++ (← decode rest)
  | _ => none

end RecordStore.Base64
