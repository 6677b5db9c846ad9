/-
Backends: what a document store can be asked.

A backend is five operations on a state of its own.  Queries, projections and
modifiers are documents.  `Backend.recorded` keeps every question that a backend is
asked, and `Backend.scripted` lets operations fail without asking it.

* `Backend` — the operations;
* `Call` — a question, with everything it says;
* `Backend.recorded`, `Backend.scripted` — a backend behind a recorder or a script.
-/
import RecordStore.Document.Sort
import RecordStore.Store.Error

namespace RecordStore

/-- What a search returns of the documents that it finds. -/
structure FindOptions where
  /-- The fields shown; the empty projection shows all. -/
  projection : Document := []
  sort : List SortKey := []
  skip : Option Nat := none
  limit : Option Nat := none

/-- The outcome of an operation on a state. -/
abbrev Outcome (ε σ α : Type) := Except ε α × σ

/-- A document store: operations on collections, which are known by name. -/
structure Backend (σ : Type) where
  /-- The documents that a query selects. -/
  find : String → Document → FindOptions → σ → Outcome StoreError σ (List Document)
  /-- The number of documents that a query selects. -/
  count : String → Document → σ → Outcome StoreError σ Nat
  /-- Adds documents; the documents as stored. -/
  insertMany : String → List Document → σ → Outcome StoreError σ (List Document)
  /-- Modifies the first document that a query selects; the number of documents found. -/
  updateOne : String → Document → Document → σ → Outcome StoreError σ Nat
  /-- Removes the documents that a query selects; their number. -/
  deleteMany : String → Document → σ → Outcome StoreError σ Nat

/-- A question to a document store. -/
inductive Call where
  | find (collection : String) (query : Document) (options : FindOptions)
  | count (collection : String) (query : Document)
  | insertMany (collection : String) (documents : List Document)
  | updateOne (collection : String) (query modifiers : Document)
  | deleteMany (collection : String) (query : Document)

/-- The name of the operation of a call. -/
def Call.name : Call → String
  | .find .. => "find"
  | .count .. => "count"
  | .insertMany .. => "insert_many"
  | .updateOne .. => "update_one"
  | .deleteMany .. => "delete_many"

namespace Backend

variable {σ α : Type}

/-- Puts a call behind the calls recorded so far and serves it. -/
def record (call : Call) (serve : σ → Outcome StoreError σ α) :
    σ × List Call → Outcome StoreError (σ × List Call) α
  | (s, calls) =>
    let (answer, s) := serve s
    (answer, s, calls ++ [call])

/-- The backend with a record of its calls, in their order. -/
def recorded (b : Backend σ) : Backend (σ × List Call) where
  find collection query options :=
    record (.find collection query options) (b.find collection query options)
  count collection query := record (.count collection query) (b.count collection query)
  insertMany collection documents :=
    record (.insertMany collection documents) (b.insertMany collection documents)
  updateOne collection query modifiers :=
    record (.updateOne collection query modifiers) (b.updateOne collection query modifiers)
  deleteMany collection query :=
    record (.deleteMany collection query) (b.deleteMany collection query)

/-- Fails as the script has it for the call, or serves the call. -/
def follow (script : Call → Option StoreError) (call : Call)
    (serve : σ → Outcome StoreError σ α) (s : σ) : Outcome StoreError σ α :=
  match script call with
  | some e => (.error e, s)
  | none => serve s

/-- The backend with calls that fail as a script has it, without reaching it. -/
def scripted (script : Call → Option StoreError) (b : Backend σ) : Backend σ where
  find collection query options :=
    follow script (.find collection query options) (b.find collection query options)
  count collection query := follow script (.count collection query) (b.count collection query)
  insertMany collection documents :=
    follow script (.insertMany collection documents) (b.insertMany collection documents)
  updateOne collection query modifiers :=
    follow script (.updateOne collection query modifiers)
      (b.updateOne collection query modifiers)
  deleteMany collection query :=
    follow script (.deleteMany collection query) (b.deleteMany collection query)

end Backend

end RecordStore
