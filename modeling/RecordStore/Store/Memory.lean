/-
A document store in memory: documents by collection, in the order of insertion.

Within a collection no two documents have the same identifier.  A document that
comes without one is given one; `fresh` says which.  Inserting is all or nothing,
and a modifier that fails changes nothing.

* `Memory.documents` — the documents of a collection;
* `Memory.accept` — the documents of a batch, unless an identifier is taken;
* `Memory.backend` — the store as a backend.
-/
import RecordStore.Document.Projection
import RecordStore.Query.Matches
import RecordStore.Store.Backend

namespace RecordStore

/-- The state of the store. -/
structure Memory where
  collections : Entries (List Document) := []
  /-- How many calls have been served. -/
  calls : Nat := 0
  /-- How many identifiers have been made up. -/
  madeUp : Nat := 0

namespace Memory

/-- The documents of a collection, in the order of insertion. -/
def documents (m : Memory) (collection : String) : List Document :=
  (m.collections.get? collection).getD []

/-- Replaces the documents of a collection. -/
def setDocuments (m : Memory) (collection : String) (ds : List Document) : Memory :=
  { m with collections := m.collections.insert collection ds }

/-- One more call has been served. -/
def served (m : Memory) : Memory := { m with calls := m.calls + 1 }

@[simp] theorem documents_setDocuments (m : Memory) (collection name : String)
    (ds : List Document) :
    (m.setDocuments collection ds).documents name =
      if collection = name then ds else m.documents name := by
  simp only [documents, setDocuments, Entries.get?_insert]
  split <;> rfl

/-- The documents that a query selects. -/
def selected (m : Memory) (collection : String) (query : Document) : List Document :=
  (m.documents collection).filter fun d => Query.selects d query

/-- Sorts, cuts a page out, and projects. -/
def page (options : FindOptions) (ds : List Document) : List Document :=
  let rest := (Document.sort options.sort ds).drop (options.skip.getD 0)
  let page := match options.limit with
    | some limit => rest.take limit
    | none => rest
  page.map (Document.project options.projection)

def find (collection : String) (query : Document) (options : FindOptions) (m : Memory) :
    Outcome StoreError Memory (List Document) :=
  (.ok (page options (m.selected collection query)), m.served)

def count (collection : String) (query : Document) (m : Memory) :
    Outcome StoreError Memory Nat :=
  (.ok (m.selected collection query).length, m.served)

/-- The document with an identifier, made up if it has none. -/
def identify (fresh : Nat → String) (madeUp : Nat) (d : Document) : Document × Nat :=
  if d.contains Document.idKey then (d, madeUp)
  else (d.insert Document.idKey (.str (fresh madeUp)), madeUp + 1)

/-- Whether some document has the identifier. -/
def isTaken (ds : List Document) (id : Json) : Bool :=
  ds.any fun d => (d.get? Document.idKey).any (· == id)

/-- The documents with their identifiers, or the first identifier that is taken:
by one of the documents present or by an earlier one of the batch.  With either, the
number of identifiers made up. -/
def accept (fresh : Nat → String) (present : List Document) (madeUp : Nat) :
    List Document → Except Json (List Document) × Nat
  | [] => (.ok [], madeUp)
  | d :: rest =>
    let (d, madeUp) := identify fresh madeUp d
    let id := (d.get? Document.idKey).getD .null
    if isTaken present id then (.error id, madeUp)
    else
      let (accepted, madeUp) := accept fresh (present ++ [d]) madeUp rest
      (accepted.map (d :: ·), madeUp)

def insertMany (fresh : Nat → String) (collection : String) (ds : List Document) (m : Memory) :
    Outcome StoreError Memory (List Document) :=
  let present := m.documents collection
  let (accepted, madeUp) := accept fresh present m.madeUp ds
  let m := { m.served with madeUp }
  match accepted with
  | .ok ds => (.ok ds, m.setDocuments collection (present ++ ds))
  | .error id => (.error (.duplicateId collection id), m)

/-- The documents with the first one that the query selects modified, and the number
of documents found. -/
def modifyFirst (query modifiers : Document) :
    List Document → Except ModifierError (List Document × Nat)
  | [] => .ok ([], 0)
  | d :: rest =>
    if Query.selects d query then (Modifier.apply modifiers d).map fun d => (d :: rest, 1)
    else (modifyFirst query modifiers rest).map fun (rest, n) => (d :: rest, n)

def updateOne (collection : String) (query modifiers : Document) (m : Memory) :
    Outcome StoreError Memory Nat :=
  match modifyFirst query modifiers (m.documents collection) with
  | .ok (ds, n) => (.ok n, m.served.setDocuments collection ds)
  | .error e => (.error (.badModifier e), m.served)

def deleteMany (collection : String) (query : Document) (m : Memory) :
    Outcome StoreError Memory Nat :=
  let ds := m.documents collection
  let kept := ds.filter fun d => !Query.selects d query
  (.ok (ds.length - kept.length), m.served.setDocuments collection kept)

/-- The store as a backend; `fresh` gives the identifiers to documents without one. -/
def backend (fresh : Nat → String) : Backend Memory where
  find := find
  count := count
  insertMany := insertMany fresh
  updateOne := updateOne
  deleteMany := deleteMany

end Memory

end RecordStore
