/-
Updates of single records.

An update replaces fields, appends to array fields, removes from them, and may bring
operators of its own.  An array appended or removed stands for its items.

* `Update.modifiers` — the modifier document of an update; empty if it asks nothing.
-/
import RecordStore.Json.Basic

namespace RecordStore

/-- An update of one record. -/
structure Update where
  /-- The identifier of the record. -/
  id : String
  /-- Fields that get a new value. -/
  replace : Document := []
  /-- Values appended to array fields. -/
  push : Document := []
  /-- Values removed from array fields. -/
  pull : Document := []
  /-- Operators as the store has them; they win over the others. -/
  operate : Document := []

namespace Update

/-- Puts an array under an operator that stands for its items. -/
def spread (operator : String) : Json → Json
  | .arr items => .obj [(operator, .arr items)]
  | v => v

/-- An operator with its fields, if there are any. -/
def operation (operator : String) (fields : Document) : List (String × Json) :=
  if fields.isEmpty then [] else [(operator, .obj fields)]

/-- The modifier document of an update. -/
def modifiers (u : Update) : Document :=
  (Entries.ofList
    (operation "$set" u.replace ++ operation "$push" (u.push.mapValues (spread "$each"))
      ++ operation "$pull" (u.pull.mapValues (spread "$in")))).insertAll u.operate

end Update

end RecordStore
