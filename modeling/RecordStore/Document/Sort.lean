/-
Sorting documents by several keys.

Every two values have an order, also of different kinds: missing, null, truth
values, numbers, texts, arrays, objects; arrays tie with arrays and objects with
objects.  Sorting inserts one document after the other behind all that do not come
after it, so documents that tie keep their order.

* `Json.sortCompare` — the order of two values, either of which may be missing;
* `SortKey.compareAll` — the order of two documents under keys, the first key first;
* `Document.sort` — the documents in that order.
-/
import RecordStore.Query.Path

namespace RecordStore

/-- The order of numbers: exact for two signed and for two unsigned 64-bit numbers,
else that of the nearest doubles, with `-0` before `0`. -/
def Number.sortCompare (m n : Number) : Ordering :=
  match m.signed?, n.signed? with
  | some a, some b => Ord.compare a b
  | _, _ =>
    match m.unsigned?, n.unsigned? with
    | some a, some b => Ord.compare a b
    | _, _ => m.toDouble.totalCompare n.toDouble

/-- The place of a value's kind among the kinds. -/
def Json.kindRank : Json → Nat
  | .null => 0
  | .bool _ => 1
  | .num _ => 2
  | .str _ => 3
  | .arr _ => 4
  | .obj _ => 5

/-- The order of two values of any kind; a missing value comes first. -/
def Json.sortCompare : Option Json → Option Json → Ordering
  | none, none => .eq
  | none, some _ => .lt
  | some _, none => .gt
  | some v, some w =>
    (Ord.compare v.kindRank w.kindRank).then <|
      match v, w with
      | .bool a, .bool b => Ord.compare a b
      | .num m, .num n => m.sortCompare n
      | .str s, .str t => Ord.compare s t
      | _, _ => .eq

/-- A direction of sorting. -/
inductive SortDirection where
  | ascending
  | descending
  deriving DecidableEq, Repr

/-- The direction as a sign. -/
def SortDirection.sign : SortDirection → Int
  | .ascending => 1
  | .descending => -1

/-- A path to sort by. -/
structure SortKey where
  field : String
  direction : SortDirection := .ascending
  deriving DecidableEq, Repr

namespace SortKey

/-- The order of two documents under one key. -/
def compare (key : SortKey) (d e : Document) : Ordering :=
  let order := Json.sortCompare (d.resolve? key.field) (e.resolve? key.field)
  match key.direction with
  | .ascending => order
  | .descending => order.swap

/-- The order of two documents under several keys: the first that tells them apart
decides. -/
def compareAll (keys : List SortKey) (d e : Document) : Ordering :=
  match keys with
  | [] => .eq
  | key :: rest => (key.compare d e).then (compareAll rest d e)

end SortKey

namespace Document

/-- Inserts a document into a list in reverse order, before all that do not come
after it. -/
def insertSorted (order : Document → Document → Ordering) (d : Document) :
    List Document → List Document
  | [] => [d]
  | e :: rest => if order d e = .lt then e :: insertSorted order d rest else d :: e :: rest

/-- The documents in ascending order under the keys. -/
def sort (keys : List SortKey) (ds : List Document) : List Document :=
  (ds.foldl (fun sorted d => insertSorted (SortKey.compareAll keys) d sorted) []).reverse

end Document

end RecordStore
