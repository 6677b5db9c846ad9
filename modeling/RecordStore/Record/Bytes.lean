/-
Byte strings as JSON values.

The plain form is the list of the bytes.  Documents may also hold a byte string in
an object: under `$binary` as base64 text, itself or under `base64`, or else under
`buffer` in the plain form.

* `Json.ofBytes`, `Json.bytes?` — the plain form;
* `Json.normalizeBytes?` — the plain form of every form, null being kept;
* `Json.shape` — what is said of a value that is no byte string.
-/
import RecordStore.Base64
import RecordStore.Json.Basic

namespace RecordStore

/-- The plain form of a byte string. -/
def Json.ofBytes (bytes : List UInt8) : Json := .arr (bytes.map Json.ofByte)

/-- A whole number below 256. -/
def Json.byte? : Json → Option UInt8
  | .num (.int n _) => if 0 ≤ n ∧ n < 256 then some (UInt8.ofNat n.toNat) else none
  | _ => none

/-- The byte string of a plain form. -/
def Json.bytes? : Json → Option (List UInt8)
  | .arr items => items.mapM Json.byte?
  | _ => none

/-- The byte string of base64 text. -/
def Json.base64Bytes? : Json → Option (List UInt8)
  | .str text => Base64.decode text.toList
  | _ => none

/-- The byte string in an object.  If there is a key `$binary`, nothing else counts. -/
def Json.wrappedBytes? : Json → Option (List UInt8)
  | .obj wrapper =>
    match Entries.get? wrapper "$binary" with
    | some (.obj inner) => (Entries.get? inner "base64").bind Json.base64Bytes?
    | some v => v.base64Bytes?
    | none => (Entries.get? wrapper "buffer").bind Json.bytes?
  | _ => none

/-- The plain form of a byte string; null stays null. -/
def Json.normalizeBytes? (v : Json) : Option Json :=
  if v.isNull || v.bytes?.isSome then some v else v.wrappedBytes?.map Json.ofBytes

/-- What is said of a value that is no byte string. -/
def Json.shape : Json → String
  | .null => "null"
  | .bool _ => "bool"
  | .num _ => "number"
  | .str _ => "string"
  | .arr _ => "non-byte array"
  | .obj _ => "object without buffer"

end RecordStore
