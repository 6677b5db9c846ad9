/-
Projections: which fields of a document are shown.

A projection gives fields a flag.  If it includes a field other than the identifier,
the fields included are all that is shown, and the identifier unless it is excluded;
otherwise everything is shown but what is excluded.

* `Projection.includes` — the flag of a value;
* `Projection.keeps` — whether a field is shown;
* `Document.project` — what is shown of a document.
-/
import RecordStore.Identity
import RecordStore.Query.Compare

namespace RecordStore

namespace Projection

/-- Whether a flag includes its field: false and zero do not, everything else does. -/
def includes : Json → Bool
  | .bool b => b
  | .num n => n.isNonzero
  | _ => true

/-- Whether a projection lists the fields to show. -/
def isInclusive (projection : Document) : Bool :=
  projection.any fun p => p.1 ≠ Document.idKey && includes p.2

/-- Whether a projection shows a field. -/
def keeps (projection : Document) (field : String) : Bool :=
  match projection.get? field with
  | some flag => includes flag
  | none => !isInclusive projection || field = Document.idKey

end Projection

/-- What a projection shows of a document; the empty one shows everything. -/
def Document.project (projection d : Document) : Document :=
  if projection.isEmpty then d else d.filter fun p => Projection.keeps projection p.1

end RecordStore
