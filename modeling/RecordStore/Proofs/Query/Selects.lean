/-
Reading queries entry by entry.

The evaluation of a query goes through its entries and through the queries under
`$and`, `$or` and `$nor` by recursion; here it is said in terms of `all` and `any`.

* `Query.selects_eq_all` — every entry of a query must be met;
* `Query.selects_and`, `Query.selects_or`, `Query.selects_nor` — the three operators;
* `Query.meets_of_path` — any other key is a path with a condition;
* `Condition.holds_not` — a negated condition.
-/
import RecordStore.Query.Matches

namespace RecordStore

/-! ### Conditions -/

namespace Condition

theorem isOperators_singleton {operator : String} (h : isOperatorKey operator = true)
    (operand : Json) : isOperators [(operator, operand)] = true := by
  rw [isOperators, List.isEmpty_cons, List.all_cons, List.all_nil, h]
  rfl

/-- `$not` on its own holds of the values that the condition under it does not hold of. -/
theorem holds_not (actual : Option Json) (condition : Json) :
    holds actual (.obj [("$not", condition)]) = !holds actual condition := by
  rw [holds, if_pos (isOperators_singleton (by decide) _), holdsAll, if_pos rfl, holdsAll,
    Bool.and_true]

/-- Any other operator on its own compares the value with the operand. -/
theorem holds_operator (actual : Option Json) {operator : String}
    (h : isOperatorKey operator = true) (hne : operator ≠ "$not") (operand : Json) :
    holds actual (.obj [(operator, operand)]) = compareBy operator actual operand := by
  rw [holds, if_pos (isOperators_singleton h _), holdsAll, if_neg hne, holdsAll, Bool.and_true]

end Condition

/-! ### Queries -/

namespace Query

variable (d : Document)

theorem selects_eq_all (query : Document) :
    selects d query = query.all fun entry => meets d entry.1 entry.2 := by
  induction query with
  | nil => rfl
  | cons entry rest ih =>
    obtain ⟨key, condition⟩ := entry
    rw [selects, ih, List.all_cons]

theorem selectedByAll_eq_all (queries : List Document) :
    selectedByAll d (queries.map .obj) = queries.all fun q => selects d q := by
  induction queries with
  | nil => rfl
  | cons q rest ih => rw [List.map_cons, selectedByAll, ih, List.all_cons]

theorem selectedByAny_eq_any (queries : List Document) :
    selectedByAny d (queries.map .obj) = queries.any fun q => selects d q := by
  induction queries with
  | nil => rfl
  | cons q rest ih => rw [List.map_cons, selectedByAny, ih, List.any_cons]

/-- A query under one key alone. -/
theorem selects_singleton (key : String) (condition : Json) :
    selects d [(key, condition)] = meets d key condition := by
  rw [selects, selects, Bool.and_true]

theorem selects_and (queries : List Document) :
    selects d [("$and", .arr (queries.map .obj))] = queries.all fun q => selects d q := by
  rw [selects_singleton, meets, if_pos rfl, selectedByAll_eq_all]

theorem selects_or (queries : List Document) :
    selects d [("$or", .arr (queries.map .obj))] = queries.any fun q => selects d q := by
  rw [selects_singleton, meets, if_neg (by decide), if_pos rfl, selectedByAny_eq_any]

theorem selects_nor (queries : List Document) :
    selects d [("$nor", .arr (queries.map .obj))] = !queries.any fun q => selects d q := by
  rw [selects_singleton, meets, if_neg (by decide), if_neg (by decide), if_pos rfl,
    selectedByAny_eq_any]

/-- Any key but the three operators is a path. -/
theorem meets_of_path {key : String} (hand : key ≠ "$and") (hor : key ≠ "$or")
    (hnor : key ≠ "$nor") (condition : Json) :
    meets d key condition = Condition.holds (d.resolve? key) condition := by
  cases condition <;> simp only [meets, if_neg hand, if_neg hor, if_neg hnor]

/-- A key that is no operator is a path. -/
theorem meets_of_not_operator {key : String} (h : Condition.isOperatorKey key = false)
    (condition : Json) :
    meets d key condition = Condition.holds (d.resolve? key) condition := by
  refine meets_of_path d ?_ ?_ ?_ condition <;> rintro rfl <;> exact absurd h (by decide)

end Query

end RecordStore
