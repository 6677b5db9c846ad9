/-
Queries for identifiers.

Updates and removals find their documents by queries.  On a document whose
identifier is a text these queries compare identifiers and nothing else.  A query
that is restricted to identifiers stays what it is beside the question for the
identifier: this stands beside its entries if none of them is for the identifier,
and otherwise both questions stand under `$and`.

* `Document.hasIdAmong` — the identifier is one of several, or an array that contains one;
* `Query.selects_id` — the query for one identifier;
* `Query.selects_restrictToIds` — a query restricted to several identifiers;
* `Query.selects_restrictToIds_nil` — the query for one of several identifiers.
-/
import RecordStore.Adapter.Fetch
import RecordStore.Proofs.Entries
import RecordStore.Proofs.Json.Equality
import RecordStore.Proofs.Query.Path
import RecordStore.Proofs.Query.Selects

namespace RecordStore

/-! ### Identifiers -/

namespace Json

theorem str_beq_str (s t : String) : (Json.str s == Json.str t) = (s == t) := by
  show same (.str s) (.str t) = (s == t)
  rw [same]

/-- The value is one of these texts. -/
def isTextAmong (texts : List String) : Json → Bool
  | .str s => decide (s ∈ texts)
  | _ => false

theorem any_beq_text (v : Json) (texts : List String) :
    (texts.any fun s => v == .str s) = v.isTextAmong texts := by
  cases v with
  | str s =>
    rw [isTextAmong, ← Bool.decide_coe (texts.any _)]
    refine decide_eq_decide.mpr ?_
    simp only [List.any_eq_true, str_beq_str, beq_iff_eq, exists_eq_right']
  | _ => exact List.any_eq_false.mpr fun s _ => Bool.false_ne_true

end Json

namespace Document

/-- The identifier key is a path of one step. -/
theorem resolve?_idKey (d : Document) : d.resolve? Document.idKey = d.get? Document.idKey :=
  d.resolve?_of_notMem (by decide)

/-- The identifier of the document is one of these, or an array that contains one of them. -/
def hasIdAmong (ids : List String) (d : Document) : Bool :=
  match d.get? Document.idKey with
  | some (.arr items) => items.any (Json.isTextAmong ids)
  | some v => v.isTextAmong ids
  | none => false

/-- No document has one of no identifiers. -/
theorem hasIdAmong_nil (d : Document) : d.hasIdAmong [] = false := by
  have htext : ∀ v : Json, v.isTextAmong [] = false := by
    intro v
    cases v <;> rfl
  rw [hasIdAmong]
  split
  · exact List.any_eq_false.mpr fun v _ => by simp [htext v]
  · exact htext _
  · rfl

end Document

/-! ### Conditions on identifiers -/

namespace Condition

/-- A text equals just the same text. -/
theorem equals_text (s t : String) : equals (some (.str s)) (.str t) = decide (s = t) := by
  simp only [equals, Json.str_beq_str, Bool.or_false]
  rfl

/-- Membership in a list of texts, for every value that a document may have. -/
theorem holds_in_texts (actual : Option Json) (texts : List String) :
    holds actual (.obj [("$in", .arr (texts.map .str))]) =
      match actual with
      | some (.arr items) => items.any (Json.isTextAmong texts)
      | some v => v.isTextAmong texts
      | none => false := by
  have hamong : holds actual (.obj [("$in", .arr (texts.map .str))]) =
      texts.any fun s => equals actual (.str s) :=
    (holds_operator _ (by decide) (by decide) _).trans List.any_map
  rw [hamong]
  cases actual with
  | none => exact List.any_eq_false.mpr fun s _ => Bool.false_ne_true
  | some v =>
    cases v with
    | arr items =>
      have hitems : ∀ s, equals (some (.arr items)) (.str s) = items.any fun v => v == .str s := by
        intro s
        show items.contains (.str s) = _
        simp only [List.contains_eq_any_beq, Json.beq_comm]
      rw [Bool.eq_iff_iff]
      simp only [hitems, ← Json.any_beq_text, List.any_eq_true]
      exact ⟨fun ⟨s, hs, v, hv, h⟩ => ⟨v, hv, s, hs, h⟩, fun ⟨v, hv, s, hs, h⟩ => ⟨s, hs, v, hv, h⟩⟩
    | _ =>
      simp only [equals, Bool.or_false, Json.any_beq_text]

end Condition

/-! ### Queries -/

namespace Query

theorem meets_idKey (d : Document) (condition : Json) :
    meets d Document.idKey condition = Condition.holds (d.get? Document.idKey) condition := by
  rw [meets_of_not_operator d (by decide), Document.resolve?_idKey]

/-- An entry under a new key asks for one thing more. -/
theorem selects_insert (d query : Document) {key : String} (h : key ∉ query.keys)
    (condition : Json) :
    selects d (query.insert key condition) = (meets d key condition && selects d query) := by
  rw [selects_eq_all, selects_eq_all, (Entries.perm_insert h condition).all_eq, List.all_cons]

/-- A restricted query selects what the query selects of the documents with one of the
identifiers. -/
theorem selects_restrictToIds (d query : Document) (ids : List String) :
    selects d (restrictToIds query ids) = (selects d query && d.hasIdAmong ids) := by
  have hmembership : meets d Document.idKey (.obj [("$in", .arr (ids.map .str))]) =
      d.hasIdAmong ids := by
    rw [meets_idKey, Condition.holds_in_texts]
    rfl
  rw [restrictToIds]
  split
  · -- The query has an entry for the identifier, which stays what it is.
    have hboth := selects_and d [query, [(Document.idKey, .obj [("$in", .arr (ids.map .str))])]]
    rw [List.map_cons, List.map_singleton] at hboth
    rw [hboth, List.all_cons, List.all_cons, List.all_nil, Bool.and_true, selects_singleton,
      hmembership]
  · rename_i hfree
    rw [Entries.contains_iff_mem_keys] at hfree
    rw [selects_insert d query hfree, hmembership, Bool.and_comm]

variable {d : Document} {key : String}

theorem selects_id (h : d.get? Document.idKey = some (.str key)) (id : String) :
    selects d [(Document.idKey, .str id)] = decide (key = id) := by
  rw [selects_singleton, meets_idKey, h]
  exact Condition.equals_text key id

theorem selects_restrictToIds_nil (h : d.get? Document.idKey = some (.str key))
    (ids : List String) :
    selects d (restrictToIds [] ids) = decide (key ∈ ids) := by
  have hempty : selects d [] = true := rfl
  rw [selects_restrictToIds, hempty, Document.hasIdAmong, h]
  rfl

end Query

end RecordStore
