/-
What a filter of values selects.

A list of values is looked up value by value, and a value of such a list is nothing but data.
A single value is written into the query as the condition itself, and there an object whose
keys all start with a dollar sign is read as a list of operators.  For every other value the
two ways of asking select the same documents, and for none of these objects do they: the
operators cannot tell the object from one that is deeper still, while equality can.

* `MatchesValue` — equal to a value, an array that contains it, or missing where it is null;
* `Condition.holds_obj_congr` — a condition holds of all or none of the objects deeper than it;
* `Filter.selects_value` — which documents the two ways of asking select, and when they agree.
-/
import RecordStore.Proofs.Filter.Leaves
import RecordStore.Proofs.Json.Equality
import RecordStore.Proofs.Query.Path

namespace RecordStore

/-- What is found at a path is the value asked for: it equals that value, is an array that
contains it, or is missing where null is asked for. -/
def MatchesValue (actual : Option Json) (v : Json) : Prop :=
  (∃ w, actual = some w ∧
    ((w == v) = true ∨ ∃ items, w = .arr items ∧ ∃ item ∈ items, (item == v) = true)) ∨
  (actual = none ∧ v = .null)

namespace Condition

theorem equals_iff (actual : Option Json) (v : Json) :
    equals actual v = true ↔ MatchesValue actual v := by
  cases actual with
  | none => cases v <;> simp [equals, MatchesValue, Json.isNull]
  | some w =>
    cases w with
    | arr items =>
      have hcontains : items.contains v = true ↔ ∃ item ∈ items, (item == v) = true := by
        simp only [List.contains_iff_exists_mem_beq, Json.beq_comm v]
      simp only [equals, MatchesValue, Bool.or_eq_true, hcontains]
      simp
    | _ => simp [equals, MatchesValue]

/-! ### Conditions on deep objects -/

section Deep

/-- An object equals nothing that is not as deep as it is. -/
theorem equals_obj_of_depth_lt {d : Document} {v : Json} (h : v.depth < (Json.obj d).depth) :
    equals (some (.obj d)) v = false := by
  show (Json.obj d == v || false) = false
  rw [Bool.or_false, ← Bool.not_eq_true]
  intro heq
  rw [Json.depth_eq_of_beq heq] at h
  exact Nat.lt_irrefl _ h

theorem among_obj_of_depth_lt {d : Document} {v : Json} (h : v.depth < (Json.obj d).depth) :
    among (some (.obj d)) v = false := by
  cases v with
  | arr vs =>
    rw [among, List.any_eq_false]
    intro w hw
    have hle := Json.depth_le_depthItems hw
    rw [Json.depth] at h
    rw [equals_obj_of_depth_lt (by omega)]
    exact Bool.false_ne_true
  | _ => rfl

/-- Objects stand in no order. -/
theorem ordered_obj (accept : Ordering → Bool) (d : Document) (bound : Json) :
    ordered accept (some (.obj d)) bound = false := by
  cases bound <;> rfl

variable {d e : Document}

theorem compareBy_obj_congr (operator : String) {v : Json} (hd : v.depth < (Json.obj d).depth)
    (he : v.depth < (Json.obj e).depth) :
    compareBy operator (some (.obj d)) v = compareBy operator (some (.obj e)) v := by
  unfold compareBy
  split <;> simp only [equals_obj_of_depth_lt hd, equals_obj_of_depth_lt he,
    among_obj_of_depth_lt hd, among_obj_of_depth_lt he, ordered_obj, Option.isSome_some]

mutual

/-- A condition holds of all the objects that are deeper than it, or of none. -/
theorem holds_obj_congr : ∀ condition : Json, condition.depth < (Json.obj d).depth →
    condition.depth < (Json.obj e).depth →
    holds (some (.obj d)) condition = holds (some (.obj e)) condition
  | .obj operators, hd, he => by
    rw [holds, holds]
    split
    · rw [Json.depth] at hd he
      exact holdsAll_obj_congr operators (by omega) (by omega)
    · rw [equals_obj_of_depth_lt hd, equals_obj_of_depth_lt he]
  | .null, hd, he => (equals_obj_of_depth_lt hd).trans (equals_obj_of_depth_lt he).symm
  | .bool _, hd, he => (equals_obj_of_depth_lt hd).trans (equals_obj_of_depth_lt he).symm
  | .num _, hd, he => (equals_obj_of_depth_lt hd).trans (equals_obj_of_depth_lt he).symm
  | .str _, hd, he => (equals_obj_of_depth_lt hd).trans (equals_obj_of_depth_lt he).symm
  | .arr _, hd, he => (equals_obj_of_depth_lt hd).trans (equals_obj_of_depth_lt he).symm

theorem holdsAll_obj_congr : ∀ operators : List (String × Json),
    Json.depthEntries operators < (Json.obj d).depth →
    Json.depthEntries operators < (Json.obj e).depth →
    holdsAll (some (.obj d)) operators = holdsAll (some (.obj e)) operators
  | [], _, _ => rfl
  | (operator, operand) :: rest, hd, he => by
    rw [Json.depthEntries] at hd he
    have hd' : operand.depth < (Json.obj d).depth := by omega
    have he' : operand.depth < (Json.obj e).depth := by omega
    rw [holdsAll, holdsAll, holds_obj_congr operand hd' he', compareBy_obj_congr operator hd' he',
      holdsAll_obj_congr rest (by omega) (by omega)]

end

end Deep

/-- An object with the value inside is deeper than the value, and so does not equal it. -/
theorem equals_wrapped (v : Json) : equals (some (.obj [("", v)])) v = false := by
  refine equals_obj_of_depth_lt ?_
  simp only [Json.depth, Json.depthEntries]
  omega

/-- Operators hold of the object that they stand in just if they hold of an object with that
one inside. -/
theorem holds_wrapped {operators : Document} (h : isOperators operators = true) :
    holds (some (.obj [("", .obj operators)])) (.obj operators) =
      holds (some (.obj operators)) (.obj operators) := by
  have hinner : Json.depthEntries operators < (Json.obj operators).depth := by
    simp only [Json.depth]
    omega
  have houter : Json.depthEntries operators < (Json.obj [("", .obj operators)]).depth := by
    simp only [Json.depth, Json.depthEntries]
    omega
  rw [holds, if_pos h, holds, if_pos h]
  exact holdsAll_obj_congr operators houter hinner

end Condition

namespace Filter

section Values

variable (t : RecordType) {field : String} (plain : Condition.isOperatorKey field = false)

include plain

theorem selects_matching (c : Constraint) (d : Document) :
    Query.selects d ((Filter.matching [(field, c)]).query t) =
      Condition.holds (d.resolve? field) (constraintCondition c) := by
  rw [query_matching, selects_entry plain]

theorem selects_not_matching (c : Constraint) (d : Document) :
    Query.selects d ((Filter.not (.matching [(field, c)])).query t) =
      !Query.selects d ((Filter.matching [(field, c)]).query t) := by
  have hoperator : hasOperator [(field, constraintCondition c)] = false := by
    rw [hasOperator, List.any_cons, plain]
    rfl
  have hnegation : (Filter.not (.matching [(field, c)])).query t =
      negate [(field, constraintCondition c)] := rfl
  rw [hnegation, negate_of_plain hoperator, selects_matching t plain]
  exact (selects_entry plain _ d).trans (Condition.holds_not _ _)

omit plain in
/-- A list of one value asks for that value. -/
theorem holds_anyOf_singleton (actual : Option Json) (v : Json) :
    Condition.holds actual (constraintCondition (.anyOf [v])) = Condition.equals actual v := by
  rw [constraintCondition, Condition.holds_operator _ (by decide) (by decide)]
  exact Bool.or_false _

omit plain in
theorem holds_is_of_not_operators (actual : Option Json) {v : Json}
    (h : ∀ entries, v = .obj entries → Condition.isOperators entries = false) :
    Condition.holds actual (constraintCondition (.is v)) = Condition.equals actual v := by
  cases v with
  | obj entries =>
    rw [constraintCondition, Condition.holds, if_neg]
    rw [h entries rfl]
    exact Bool.false_ne_true
  | _ => rfl

/-- A filter of a list of one value selects the documents that match the value, and its
negation all others.  So does a filter of that single value, and its negation, if the value
is no object that reads as operators; for an object that does, the two filters differ on some
document. -/
theorem selects_value (v : Json) :
    (∀ d, (Query.selects d ((Filter.matching [(field, .anyOf [v])]).query t) = true ↔
        MatchesValue (d.resolve? field) v) ∧
      (Query.selects d ((Filter.not (.matching [(field, .anyOf [v])])).query t) = true ↔
        ¬MatchesValue (d.resolve? field) v)) ∧
    ((∀ d, Query.selects d ((Filter.matching [(field, .is v)]).query t)
        = Query.selects d ((Filter.matching [(field, .anyOf [v])]).query t) ∧
      Query.selects d ((Filter.not (.matching [(field, .is v)])).query t)
        = Query.selects d ((Filter.not (.matching [(field, .anyOf [v])])).query t)) ↔
      ∀ entries, v = .obj entries → Condition.isOperators entries = false) := by
  have hlist : ∀ d, Query.selects d ((Filter.matching [(field, .anyOf [v])]).query t) =
      Condition.equals (d.resolve? field) v := by
    intro d
    rw [selects_matching t plain, holds_anyOf_singleton]
  have hsingle : ∀ d, Query.selects d ((Filter.matching [(field, .is v)]).query t) =
      Condition.holds (d.resolve? field) v := selects_matching t plain (.is v)
  refine ⟨fun d => ⟨?_, ?_⟩, ?_, ?_⟩
  · rw [hlist, Condition.equals_iff]
  · rw [selects_not_matching t plain, hlist, Bool.not_eq_true', ← Condition.equals_iff,
      Bool.not_eq_true]
  · intro hagree entries hv
    by_contra hoperators
    rw [Bool.not_eq_false] at hoperators
    subst hv
    -- One document holds the object itself, the other an object with it inside.
    obtain ⟨d, hd⟩ := Document.exists_resolve?_eq_some field (.obj entries)
    obtain ⟨e, he⟩ := Document.exists_resolve?_eq_some field (.obj [("", .obj entries)])
    have hself : Condition.equals (some (.obj entries)) (.obj entries) = true := by
      show (Json.obj entries == .obj entries || false) = true
      rw [Json.beq_self, Bool.true_or]
    have hinner := (hagree d).1
    have houter := (hagree e).1
    rw [hsingle, hlist, hd, hself] at hinner
    rw [hsingle, hlist, he, Condition.equals_wrapped, Condition.holds_wrapped hoperators,
      hinner] at houter
    exact Bool.noConfusion houter
  · intro hliteral d
    have hselects : Query.selects d ((Filter.matching [(field, .is v)]).query t) =
        Query.selects d ((Filter.matching [(field, .anyOf [v])]).query t) := by
      rw [hlist, selects_matching t plain, holds_is_of_not_operators _ hliteral]
    exact ⟨hselects, by rw [selects_not_matching t plain, selects_not_matching t plain, hselects]⟩

end Values

/-- An object whose one key is no operator, asked for on its own and in a list. -/
theorem selects_value_object :
    let t : RecordType :=
      { name := "user", fields := [{ name := "home" }]
        nodup := by decide, unreserved := by decide }
    let v : Json := .obj [("city", .str "Rome")]
    let d : Document := [("home", v)]
    Condition.isOperatorKey "home" = false ∧
      Query.selects d ((Filter.matching [("home", .is v)]).query t)
        = Query.selects d ((Filter.matching [("home", .anyOf [v])]).query t) := by
  intro t v d
  have plain : Condition.isOperatorKey "home" = false := by decide
  have hliteral : ∀ entries, v = .obj entries → Condition.isOperators entries = false := by
    intro entries hv
    obtain rfl := Json.obj.inj hv
    decide
  exact ⟨plain, (((selects_value t plain v).2.mpr hliteral) d).1⟩

/-- An operator in the place of a value: on its own it selects every token that is not null,
in a list it is an object like any other and equals no token. -/
theorem selects_value_operator :
    let t : RecordType :=
      { name := "user", fields := [{ name := "token" }]
        nodup := by decide, unreserved := by decide }
    let v : Json := .obj [("$ne", .null)]
    let d : Document := [("token", .str "secret")]
    Query.selects d ((Filter.matching [("token", .is v)]).query t) = true ∧
      Query.selects d ((Filter.matching [("token", .anyOf [v])]).query t) = false ∧
      Query.selects d ((Filter.not (.matching [("token", .is v)])).query t) = false ∧
      Query.selects d ((Filter.not (.matching [("token", .anyOf [v])])).query t) = true ∧
      Condition.equals (d.resolve? "token") v = false := by
  decide +kernel

end Filter

end RecordStore
