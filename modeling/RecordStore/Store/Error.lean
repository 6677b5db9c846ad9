/-
Failures of document stores.

A store fails for a cause of its own, or reports a message and perhaps a number.
The number 11000 stands for an identifier that is taken, whoever reports it.

* `StoreError.code?`, `StoreError.message` — what is reported of a failure;
* `StoreError.isDuplicate` — whether an identifier is taken.
-/
import RecordStore.Document.Modifier

namespace RecordStore

/-- A failure of a document store. -/
inductive StoreError where
  /-- The identifier is taken in the collection. -/
  | duplicateId (collection : String) (id : Json)
  | badModifier (cause : ModifierError)
  /-- A failure that a store reports in its own words. -/
  | reported (code : Option Int) (message : String)

namespace StoreError

/-- The number of a taken identifier. -/
def duplicateCode : Int := 11000

/-- The number of a modifier that cannot be applied. -/
def badModifierCode : Int := 9

/-- The number reported with a failure. -/
def code? : StoreError → Option Int
  | .duplicateId .. => some duplicateCode
  | .badModifier _ => some badModifierCode
  | .reported code _ => code

def message : StoreError → String
  | .duplicateId collection id =>
    "E11000 duplicate key error collection: " ++ collection
      ++ " index: _id_ dup key: \x7b _id: " ++ id.text ++ " \x7d"
  | .badModifier cause => cause.message
  | .reported _ message => message

/-- Whether the failure is that of a taken identifier. -/
def isDuplicate (e : StoreError) : Bool := e.code? = some duplicateCode

end StoreError

end RecordStore
