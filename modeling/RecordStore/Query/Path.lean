/-
Dotted paths into documents.

A path is a list of steps separated by points.  The first step is a key of the
document; every further one is a key of the object reached or a position in the
array reached.

* `Path.steps` — the steps of a path;
* `Path.position?` — a step read as a position: digits, a plus sign allowed;
* `Document.resolve?` — the value a path leads to.
-/
import RecordStore.Json.Basic

namespace RecordStore

namespace Path

/-- Cuts a text at its points.  There is always a first part, and then the others. -/
def cut : List Char → List Char × List (List Char)
  | [] => ([], [])
  | c :: rest =>
    let (first, others) := cut rest
    if c = '.' then ([], first :: others) else (c :: first, others)

/-- The first step of a path and the others. -/
def steps (path : String) : String × List String :=
  let (first, others) := cut path.toList
  (String.ofList first, others.map String.ofList)

/-- A position in an array: decimal digits, with a plus sign before them or not,
of a number below `2 ^ 64`. -/
def position? (step : String) : Option Nat :=
  let ds := match step.toList with
    | '+' :: rest => rest
    | cs => cs
  if ds.isEmpty || !ds.all Char.isDigit then none
  else
    let n := ds.foldl (fun n c => n * 10 + (c.toNat - '0'.toNat)) 0
    if n < 2 ^ 64 then some n else none

end Path

/-- The value one step below a value. -/
def Json.child? (v : Json) (step : String) : Option Json :=
  match v with
  | .obj entries => Entries.get? entries step
  | .arr items => (Path.position? step).bind fun n => items[n]?
  | _ => none

/-- The value that steps lead to. -/
def Json.descend? (v : Json) (steps : List String) : Option Json :=
  steps.foldlM Json.child? v

/-- The value a dotted path leads to. -/
def Document.resolve? (d : Document) (path : String) : Option Json :=
  let (first, others) := Path.steps path
  (d.get? first).bind (·.descend? others)

end RecordStore
