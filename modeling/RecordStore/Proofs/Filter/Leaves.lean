/-
The queries of leaves.

A leaf gives one clause, and its query is that clause.  The clause of a leaf about one field
has one entry, apart from that of a range of an array, which has an entry for each side that
is bounded: the path of a place in the array, and whether there has to be an item.

* `Filter.query_matching`, `Filter.query_presence`, `Filter.query_range` — the queries;
* `Filter.placePath`, `Filter.placePath_injective` — the paths of the places of an array;
* `Filter.selects_entry` — what a query of one entry selects.
-/
import RecordStore.Proofs.Filter.Literals

namespace RecordStore

namespace Filter

variable {t : RecordType} {field : String}

theorem conjunction_unlessEmpty (clause : Document) :
    conjunction (unlessEmpty clause) = clause := by
  cases clause <;> rfl

theorem query_matching (c : Constraint) :
    query t (.matching [(field, c)]) = [(field, constraintCondition c)] := by
  rw [query, clauses, conjunction_unlessEmpty]
  rfl

theorem query_presence {f : Field} (hf : t.field? field = some f) (expected : Bool) :
    query t (.presence [(field, expected)]) = [(field, presenceCondition f expected)] := by
  rw [query, clauses, conjunction_unlessEmpty]
  simp only [presenceClause, List.filterMap_cons, List.filterMap_nil, hf, Option.map_some]

theorem query_range (bounds : Bounds) :
    query t (.range [(field, bounds)]) = Entries.ofList (rangeEntries t field bounds) := by
  rw [query, clauses, conjunction_unlessEmpty, rangeClause, List.flatMap_singleton]

/-- A query of one entry about a path asks for the condition of what the path leads to. -/
theorem selects_entry (plain : Condition.isOperatorKey field = false) (condition : Json)
    (d : Document) :
    Query.selects d [(field, condition)] = Condition.holds (d.resolve? field) condition := by
  rw [Query.selects_singleton, Query.meets_of_not_operator d plain]

/-- A query put together from pairs about different paths asks for each of them. -/
theorem selects_ofList {pairs : List (String × Json)} (hnodup : (Entries.keys pairs).Nodup)
    (plain : ∀ p ∈ pairs, Condition.isOperatorKey p.1 = false) (d : Document) :
    Query.selects d (Entries.ofList pairs) = true ↔
      ∀ p ∈ pairs, Condition.holds (d.resolve? p.1) p.2 = true := by
  rw [Query.selects_eq_all, List.all_eq_true]
  simp only [(Entries.perm_ofList hnodup).mem_iff]
  refine forall₂_congr fun p hp => ?_
  rw [Query.meets_of_not_operator d (plain p hp)]

/-! ### Ranges of arrays -/

/-- The path of a place in an array. -/
def placePath (field : String) (n : Nat) : String := field ++ "." ++ Decimal.text n

theorem placePath_injective (field : String) : Function.Injective (placePath field) := by
  intro m n h
  have htext : Decimal.text m = Decimal.text n := (String.append_right_inj _).mp h
  have hdigits : Decimal.digits m = Decimal.digits n := String.ofList_injective htext
  calc m = Nat.ofDigitChars 10 (Decimal.digits m) 0 := Nat.ofDigitChars_ten_toDigits.symm
    _ = Nat.ofDigitChars 10 (Decimal.digits n) 0 := by rw [hdigits]
    _ = n := Nat.ofDigitChars_ten_toDigits

/-- The entries of a range of an array, for each side that is bounded. -/
theorem rangeEntries_of_isArray (harray : t.isArray field = true) (bounds : Bounds) :
    rangeEntries t field bounds =
      (((bounds.low?.bind Json.length?).filter (0 < ·)).toList.map fun n =>
          (placePath field (n - 1), .obj [("$exists", .bool true)])) ++
        (bounds.high?.bind Json.length?).toList.map fun n =>
          (placePath field n, .obj [("$exists", .bool false)]) := by
  rw [RecordType.isArray, Option.any_eq_true] at harray
  obtain ⟨f, hf, hisArray⟩ := harray
  rw [rangeEntries, hf]
  dsimp only
  rw [if_pos hisArray]
  rfl

theorem holds_exists (actual : Option Json) (expected : Bool) :
    Condition.holds actual (.obj [("$exists", .bool expected)]) = (actual.isSome == expected) := by
  rw [Condition.holds_operator _ (by decide) (by decide)]
  rfl

end Filter

end RecordStore
