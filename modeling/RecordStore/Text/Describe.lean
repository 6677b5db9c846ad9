/-
Descriptions of values on one line, for people.

Structures are written with the names of their parts, texts between quotation marks,
and characters that cannot be shown by their number.

* `Describe.quoted` — a text;
* `Describe.list`, `Describe.entries`, `Describe.option`, `Describe.record` — values
  made of others.
-/
import RecordStore.Entries
import RecordStore.Text.Shown

namespace RecordStore.Describe

/-- One character between quotation marks. -/
def character (c : Char) : List Char :=
  if c = '\x00' then ['\\', '0']
  else if c = '\t' then ['\\', 't']
  else if c = '\r' then ['\\', 'r']
  else if c = '\n' then ['\\', 'n']
  else if c = '"' ∨ c = '\\' then ['\\', c]
  else if Shown.isHidden c then
    ['\\', 'u', '\x7b'] ++ Nat.toDigits 16 c.toNat ++ ['\x7d']
  else [c]

/-- A text between quotation marks. -/
def quoted (s : String) : String := "\"" ++ String.ofList (s.toList.flatMap character) ++ "\""

/-- A call of a name. -/
def named (name : String) (parts : List String) : String :=
  name ++ "(" ++ ", ".intercalate parts ++ ")"

/-- A list of values. -/
def list (items : List String) : String := "[" ++ ", ".intercalate items ++ "]"

/-- Values under keys. -/
def entries (d : Entries String) : String :=
  "\x7b" ++ ", ".intercalate (d.map fun p => quoted p.1 ++ ": " ++ p.2) ++ "\x7d"

/-- A value that may be missing. -/
def option : Option String → String
  | some v => named "Some" [v]
  | none => "None"

/-- A structure with its parts. -/
def record (name : String) (parts : List (String × String)) : String :=
  name ++ " \x7b " ++ ", ".intercalate (parts.map fun p => p.1 ++ ": " ++ p.2) ++ " \x7d"

def bool (b : Bool) : String := if b then "true" else "false"

end RecordStore.Describe
