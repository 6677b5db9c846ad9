/-
Identifiers for records that come without one.

A supply makes up identifiers one after the other and counts them, so that what a
call used can be read off the supply.

* `IdSupply.next` — the next identifier;
* `IdStrategy.identifier` — an identifier made from random bytes: 20 symbols of
  base64, or a version 4 UUID without its hyphens.
-/
import RecordStore.Base64
import RecordStore.Json.Quoted

namespace RecordStore

/-- Makes up identifiers. -/
structure IdSupply where
  /-- The identifier of a number, for a record of a type. -/
  generate : Nat → String → String
  /-- How many identifiers have been asked for. -/
  used : Nat := 0

/-- The next identifier for a record of a type. -/
def IdSupply.next (ids : IdSupply) (type : String) : String × IdSupply :=
  (ids.generate ids.used type, { ids with used := ids.used + 1 })

/-- A way of making identifiers from random bytes. -/
inductive IdStrategy where
  | random
  | uuid
  deriving DecidableEq, Repr

namespace IdStrategy

def name : IdStrategy → String
  | .random => "random"
  | .uuid => "uuid"

def ofName? : String → Option IdStrategy
  | "random" => some .random
  | "uuid" => some .uuid
  | _ => none

/-- The number of random bytes in an identifier. -/
def byteCount : IdStrategy → Nat
  | .random => 15
  | .uuid => 16

/-- Two hexadecimal digits. -/
def hexByte (b : UInt8) : List Char :=
  [Quoted.hexDigit (b.toNat / 16), Quoted.hexDigit (b.toNat % 16)]

/-- Marks bytes as a UUID of version 4: the version in the seventh byte, the
variant in the ninth. -/
def markUuid (bytes : List UInt8) : List UInt8 :=
  (bytes.modify 6 fun b => b &&& 0x0f ||| 0x40).modify 8 fun b => b &&& 0x3f ||| 0x80

/-- The identifier made from `byteCount` bytes. -/
def identifier (strategy : IdStrategy) (bytes : List UInt8) : String :=
  match strategy with
  | .random => String.ofList (Base64.encodeUrl bytes)
  | .uuid => String.ofList ((markUuid bytes).flatMap hexByte)

/-- The supply that draws its bytes from a source of randomness, one list for each
identifier. -/
def supply (strategy : IdStrategy) (randomness : Nat → List UInt8) : IdSupply :=
  { generate := fun n _ => strategy.identifier ((randomness n).take strategy.byteCount) }

end IdStrategy

end RecordStore
