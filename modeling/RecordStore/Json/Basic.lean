/-
JSON values and documents.

A document is the entries of a JSON object.  Values are compared by `Json.same`:
numbers as `Number.same` has it, arrays item by item and objects entry by entry,
which is equality of objects since their keys ascend.

* `Json`, `Document` — values, and the entries of an object;
* `Json.same` — equality of values.
-/
import RecordStore.Entries
import RecordStore.Json.Number

namespace RecordStore

/-- A JSON value.  The entries of an object stand in the order of their keys. -/
inductive Json where
  | null
  | bool (b : Bool)
  | num (n : Number)
  | str (s : String)
  | arr (items : List Json)
  | obj (entries : List (String × Json))
  deriving Inhabited

/-- The entries of a JSON object. -/
abbrev Document := Entries Json

namespace Json

mutual

/-- Equality of values. -/
def same : Json → Json → Bool
  | .null, .null => true
  | .bool a, .bool b => a == b
  | .num m, .num n => m.same n
  | .str s, .str t => s == t
  | .arr xs, .arr ys => sameItems xs ys
  | .obj ds, .obj es => sameEntries ds es
  | _, _ => false

/-- Equality item by item. -/
def sameItems : List Json → List Json → Bool
  | [], [] => true
  | x :: xs, y :: ys => same x y && sameItems xs ys
  | _, _ => false

/-- Equality entry by entry. -/
def sameEntries : List (String × Json) → List (String × Json) → Bool
  | [], [] => true
  | (j, v) :: ds, (k, w) :: es => j == k && same v w && sameEntries ds es
  | _, _ => false

end

instance : BEq Json := ⟨same⟩

def isNull : Json → Bool
  | .null => true
  | _ => false

/-- The entries of an object. -/
def entries? : Json → Option Document
  | .obj entries => some entries
  | _ => none

/-- The items of an array. -/
def items? : Json → Option (List Json)
  | .arr items => some items
  | _ => none

/-- A whole number below `2 ^ 64`. -/
def ofNat (n : Nat) (h : n < 2 ^ 64 := by decide) : Json := .num (.int n ⟨by omega, by omega⟩)

/-- A byte. -/
def ofByte (b : UInt8) : Json := ofNat b.toNat (by have := b.toNat_lt; omega)

/-- A 64-bit count. -/
def ofWord (n : UInt64) : Json := ofNat n.toNat n.toNat_lt

end Json

end RecordStore
