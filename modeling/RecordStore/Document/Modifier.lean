/-
Modifiers: changes of a document by operators on its fields.

A modifier document has operators as keys, each over an object of fields and
operands.  Operators and fields are taken in their order; a modifier that fails
leaves the document as it was.

* `Modifier.applyOperator` — one operator on one field;
* `Modifier.apply` — a whole modifier document.
-/
import RecordStore.Identity
import RecordStore.Query.Condition

namespace RecordStore

/-- Why a modifier cannot be applied. -/
inductive ModifierError where
  | notADocument (operator : String)
  | immutableId
  | notNumeric (field : String)
  | notAnArray (field : String)
  | pullFromNonArray (field : String)
  | unknownOperator (operator : String)
  deriving DecidableEq, Repr

def ModifierError.message : ModifierError → String
  | .notADocument operator => s!"Modifier {operator} expects a document"
  | .immutableId =>
    s!"Performing an update on the path '{Document.idKey}' would modify the immutable field"
  | .notNumeric field => s!"Cannot apply $inc to non-numeric field '{field}'"
  | .notAnArray field => s!"The field '{field}' must be an array"
  | .pullFromNonArray field => s!"Cannot apply $pull to non-array field '{field}'"
  | .unknownOperator operator => s!"Unknown modifier: {operator}"

/-- The sum of two numbers: exact if it and both numbers are signed 64-bit numbers,
else the rounded sum of the nearest doubles; null if that is too large. -/
def Number.add (m n : Number) : Json :=
  let rounded := match m.toDouble.add n.toDouble with
    | some x => Json.num (.float x)
    | none => .null
  match m.signed?, n.signed? with
  | some a, some b =>
    if h : -2 ^ 63 ≤ a + b ∧ a + b < 2 ^ 63 then .num (.int (a + b) ⟨h.1, by omega⟩) else rounded
  | _, _ => rounded

namespace Modifier

/-- The items that an operand adds: those of a list under `$each`, or itself. -/
def eachItem (operand : Json) : List Json :=
  match operand with
  | .obj entries =>
    match Entries.get? entries "$each" with
    | some (.arr items) => items
    | _ => [operand]
  | _ => [operand]

/-- Appends an item unless the list contains it. -/
def addToSet (items : List Json) (item : Json) : List Json :=
  if items.contains item then items else items ++ [item]

/-- The array in a field; a missing field counts as an empty one. -/
def arrayIn (d : Document) (field : String) : Except ModifierError (List Json) :=
  match d.get? field with
  | none => .ok []
  | some (.arr items) => .ok items
  | some _ => .error (.notAnArray field)

/-- Applies one operator to one field. -/
def applyOperator (operator field : String) (operand : Json) (d : Document) :
    Except ModifierError Document :=
  match operator with
  | "$set" => .ok (d.insert field operand)
  | "$unset" => .ok (d.erase field)
  | "$inc" =>
    match d.get? field, operand with
    | none, .num _ => .ok (d.insert field operand)
    | some (.num current), .num delta => .ok (d.insert field (current.add delta))
    | _, _ => .error (.notNumeric field)
  | "$push" => do
    let items ← arrayIn d field
    return d.insert field (.arr (items ++ eachItem operand))
  | "$addToSet" => do
    let items ← arrayIn d field
    return d.insert field (.arr ((eachItem operand).foldl addToSet items))
  | "$pull" =>
    match d.get? field with
    | none => .ok d
    | some (.arr items) =>
      .ok (d.insert field (.arr (items.filter fun item => !Condition.holds (some item) operand)))
    | some _ => .error (.pullFromNonArray field)
  | _ => .error (.unknownOperator operator)

/-- Applies one operator to one field, which must not be the identifier. -/
def applyField (operator : String) (d : Document) (entry : String × Json) :
    Except ModifierError Document :=
  if entry.1 = Document.idKey then .error .immutableId
  else applyOperator operator entry.1 entry.2 d

/-- Applies one operator to all of its fields. -/
def applyEntry (d : Document) (entry : String × Json) : Except ModifierError Document :=
  match entry.2 with
  | .obj fields => fields.foldlM (applyField entry.1) d
  | _ => .error (.notADocument entry.1)

/-- Applies a modifier document. -/
def apply (modifiers d : Document) : Except ModifierError Document := modifiers.foldlM applyEntry d

end Modifier

end RecordStore
