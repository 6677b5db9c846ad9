/-
The compact text of a JSON value: no blanks, entries in their order.

* `Json.write` — the characters of a value;
* `Json.text` — the same as a string.
-/
import RecordStore.Json.Basic
import RecordStore.Json.Quoted

namespace RecordStore.Json

/-- A text between quotation marks. -/
def quote (s : String) : List Char := Quoted.encode s.toList

mutual

/-- The compact text of a value. -/
def write : Json → List Char
  | .null => ['n', 'u', 'l', 'l']
  | .bool true => ['t', 'r', 'u', 'e']
  | .bool false => ['f', 'a', 'l', 's', 'e']
  | .num n => n.text
  | .str s => quote s
  | .arr [] => ['[', ']']
  | .arr (v :: vs) => '[' :: write v ++ writeItems vs ++ [']']
  | .obj [] => ['\x7b', '\x7d']
  | .obj ((k, v) :: rest) => '\x7b' :: quote k ++ ':' :: write v ++ writeEntries rest ++ ['\x7d']

/-- The items behind the first one, each after a comma. -/
def writeItems : List Json → List Char
  | [] => []
  | v :: vs => ',' :: write v ++ writeItems vs

/-- The entries behind the first one, each after a comma. -/
def writeEntries : List (String × Json) → List Char
  | [] => []
  | (k, v) :: rest => ',' :: quote k ++ ':' :: write v ++ writeEntries rest

end

/-- The compact text of a value. -/
def text (v : Json) : String := String.ofList (write v)

end RecordStore.Json
