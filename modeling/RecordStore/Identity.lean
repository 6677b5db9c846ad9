/-
How records and documents are identified.

A record carries its identifier under `id`, a document under `_id`; neither name
can be a field of a record type.  A document's identifier may be any value; as an
identifier of a record it is a text.

* `Record.idKey`, `Document.idKey` — the two names;
* `Json.idText?` — a value as an identifier, and `Json.idText?_eq_some_iff` what it is.
-/
import RecordStore.Json.Text

namespace RecordStore

/-- The name of the identifier of a record. -/
def Record.idKey : String := "id"

/-- The name of the identifier of a document. -/
def Document.idKey : String := "_id"

/-- A value as an identifier: null is none, a text is itself, and everything else
is its compact text. -/
def Json.idText? : Json → Option String
  | .null => none
  | .str s => some s
  | v => some v.text

/-- Null stands for no identifier, a text for itself, and any other value for its compact
text. -/
theorem Json.idText?_eq_some_iff {v : Json} {text : String} :
    v.idText? = some text ↔
      v = .str text ∨ v ≠ .null ∧ (∀ s, v ≠ .str s) ∧ v.text = text := by
  cases v <;> simp [idText?]

end RecordStore
