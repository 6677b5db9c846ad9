/-
What a filter means, and that its query selects just that.

A filter is read as a list of literals, all of which must hold.  The entries of a
leaf's clause are literals one by one, an `or` is a single literal, and `not`
complements the literals of its child one by one.  The query is made of clauses
instead, so the literals of a clause are the link between the two readings:

* `Filter.literals` — the literals of a filter, by recursion on the filter;
* `clauseLiterals_negate` — negating a clause complements its literals, whatever
  the clause is, so that negations may be repeated;
* `flatMap_clauseLiterals` — the clauses of a filter have the literals of the filter;
* `selects_query` — the query selects the documents of which all literals hold.
-/
import RecordStore.Filter.Query
import RecordStore.Proofs.Entries
import RecordStore.Proofs.Query.Selects

namespace RecordStore

/-- A yes-or-no question about documents. -/
abbrev Literal := Document → Bool

namespace Filter

/-! ### The literals of a filter -/

/-- One literal for each path of a clause: what it leads to meets its condition. -/
def pathLiterals (clause : Document) : List Literal :=
  clause.map fun entry d => Condition.holds (d.resolve? entry.1) entry.2

/-- The opposite of a literal. -/
def complement (l : Literal) : Literal := fun d => !l d

mutual

/-- The literals of a filter. -/
def literals (t : RecordType) : Filter → List Literal
  | .matching fields => pathLiterals (matchingClause fields)
  | .presence fields => pathLiterals (presenceClause t fields)
  | .range fields => pathLiterals (rangeClause t fields)
  | .and children => allLiterals t children
  | .or children => if children.isEmpty then [] else [someChildHolds t children]
  | .not child => (literals t child).map complement

/-- The literals of several filters, one filter after the other. -/
def allLiterals (t : RecordType) : List Filter → List Literal
  | [] => []
  | f :: rest => literals t f ++ allLiterals t rest

/-- Some filter of a list has only literals that hold. -/
def someChildHolds (t : RecordType) : List Filter → Literal
  | [], _ => false
  | f :: rest, d => (literals t f).all (fun l => l d) || someChildHolds t rest d

end

mutual

/-- The names of the fields that a filter speaks of. -/
def fieldNames : Filter → List String
  | .matching fields => fields.keys
  | .presence fields => fields.keys
  | .range fields => fields.keys
  | .and children => allFieldNames children
  | .or children => allFieldNames children
  | .not child => fieldNames child

/-- The names of the fields that several filters speak of. -/
def allFieldNames : List Filter → List String
  | [] => []
  | f :: rest => fieldNames f ++ allFieldNames rest

end

/-- No field of the filter has the name of an operator. -/
def HasPlainNames (f : Filter) : Prop :=
  ∀ name ∈ f.fieldNames, Condition.isOperatorKey name = false

instance (f : Filter) : Decidable f.HasPlainNames :=
  inferInstanceAs (Decidable (∀ name ∈ f.fieldNames, Condition.isOperatorKey name = false))

/-! ### The literals of a clause -/

/-- A clause has an operator among its keys. -/
def hasOperator (clause : Document) : Bool :=
  clause.any fun entry => Condition.isOperatorKey entry.1

/-- The literals of a clause: a clause about fields has one for each of its paths,
a clause with an operator is one literal as a whole. -/
def clauseLiterals (clause : Document) : List Literal :=
  if hasOperator clause then [fun d => Query.selects d clause] else pathLiterals clause

theorem hasOperator_eq_false_iff {clause : Document} :
    hasOperator clause = false ↔
      ∀ entry ∈ clause, Condition.isOperatorKey entry.1 = false := by
  simp [hasOperator]

theorem hasOperator_singleton {key : String} (h : Condition.isOperatorKey key = true)
    (condition : Json) : hasOperator [(key, condition)] = true := by
  rw [hasOperator, List.any_cons, h, Bool.true_or]

section Cases

variable {clause : Document}

theorem clauseLiterals_of_operator (h : hasOperator clause = true) :
    clauseLiterals clause = [fun d => Query.selects d clause] := if_pos h

theorem clauseLiterals_of_plain (h : hasOperator clause = false) :
    clauseLiterals clause = pathLiterals clause := if_neg (by rw [h]; exact Bool.false_ne_true)

theorem negate_of_operator (h : hasOperator clause = true) :
    negate clause = [("$nor", .arr [.obj clause])] := if_pos h

theorem negate_of_plain (h : hasOperator clause = false) :
    negate clause = clause.mapValues fun condition => .obj [("$not", condition)] :=
  if_neg (by rw [show clause.any _ = false from h]; exact Bool.false_ne_true)

theorem hasOperator_negate_of_plain (h : hasOperator clause = false) :
    hasOperator (negate clause) = false := by
  rw [negate_of_plain h]
  rw [hasOperator_eq_false_iff] at h ⊢
  intro entry hentry
  obtain ⟨old, hold, rfl⟩ := List.mem_map.mp hentry
  exact h old hold

theorem selects_eq_all_pathLiterals (d : Document) (h : hasOperator clause = false) :
    Query.selects d clause = (pathLiterals clause).all fun l => l d := by
  rw [hasOperator_eq_false_iff] at h
  rw [Query.selects_eq_all, pathLiterals, List.all_map, Bool.eq_iff_iff, List.all_eq_true,
    List.all_eq_true]
  refine forall₂_congr fun entry hentry => ?_
  rw [Query.meets_of_not_operator d (h entry hentry)]
  rfl

end Cases

/-- A clause selects the documents of which all its literals hold. -/
theorem selects_eq_all_clauseLiterals (d clause : Document) :
    Query.selects d clause = (clauseLiterals clause).all fun l => l d := by
  cases h : hasOperator clause with
  | true => rw [clauseLiterals_of_operator h, List.all_cons, List.all_nil, Bool.and_true]
  | false => rw [clauseLiterals_of_plain h, selects_eq_all_pathLiterals d h]

/-- Negating a clause complements its literals.  Nothing is asked of the clause, so
this holds of negations of negations as well. -/
theorem clauseLiterals_negate (clause : Document) :
    clauseLiterals (negate clause) = (clauseLiterals clause).map complement := by
  cases h : hasOperator clause with
  -- Wrapped as a whole in `$nor`, which is an operator again.
  | true =>
    rw [clauseLiterals_of_operator h, negate_of_operator h,
      clauseLiterals_of_operator (hasOperator_singleton (by decide) _), List.map_singleton,
      List.singleton_inj]
    funext d
    have hselects := Query.selects_nor d [clause]
    rw [List.map_singleton, List.any_cons, List.any_nil, Bool.or_false] at hselects
    exact hselects
  -- Every condition is wrapped in `$not`; the keys, which are paths, stay.
  | false =>
    rw [clauseLiterals_of_plain h, clauseLiterals_of_plain (hasOperator_negate_of_plain h),
      negate_of_plain h, pathLiterals, pathLiterals, Entries.mapValues, List.map_map, List.map_map]
    refine List.map_congr_left fun entry _ => ?_
    funext d
    exact Condition.holds_not _ _

theorem complement_complement (l : Literal) : complement (complement l) = l := by
  funext d
  exact Bool.not_not _

/-! ### The clauses of a filter -/

theorem selects_conjunction (d : Document) (clauses : List Document) :
    Query.selects d (conjunction clauses) = clauses.all fun c => Query.selects d c := by
  match clauses with
  | [] => rfl
  | [clause] => rw [conjunction, List.all_cons, List.all_nil, Bool.and_true]
  | c :: c' :: rest => exact Query.selects_and d _

/-- The conjunction of clauses selects the documents of which all their literals hold. -/
theorem selects_conjunction_eq_all (d : Document) (clauses : List Document) :
    Query.selects d (conjunction clauses)
      = (clauses.flatMap clauseLiterals).all fun l => l d := by
  rw [selects_conjunction, List.all_flatMap]
  exact List.all_congr rfl fun c => selects_eq_all_clauseLiterals d c

theorem flatMap_unlessEmpty {clause : Document} (h : hasOperator clause = false) :
    (unlessEmpty clause).flatMap clauseLiterals = pathLiterals clause := by
  rw [unlessEmpty]
  cases clause with
  | nil => rfl
  | cons entry rest =>
    rw [List.isEmpty_cons, if_neg Bool.false_ne_true, List.flatMap_singleton,
      clauseLiterals_of_plain h]

/-! ### Leaves -/

theorem hasOperator_matchingClause {fields : Entries Constraint}
    (plain : (Filter.matching fields).HasPlainNames) :
    hasOperator (matchingClause fields) = false := by
  rw [hasOperator_eq_false_iff]
  intro entry hentry
  obtain ⟨field, hfield, rfl⟩ := List.mem_map.mp hentry
  exact plain _ (List.mem_map_of_mem hfield)

theorem hasOperator_presenceClause (t : RecordType) {fields : Entries Bool}
    (plain : (Filter.presence fields).HasPlainNames) :
    hasOperator (presenceClause t fields) = false := by
  rw [hasOperator_eq_false_iff]
  intro entry hentry
  obtain ⟨field, hfield, hsome⟩ := List.mem_filterMap.mp hentry
  obtain ⟨f, -, rfl⟩ := Option.map_eq_some_iff.mp hsome
  exact plain _ (List.mem_map_of_mem hfield)

/-- What is written behind a point does not make a name that of an operator. -/
theorem isOperatorKey_point (field place : String) :
    Condition.isOperatorKey (field ++ "." ++ place) = Condition.isOperatorKey field := by
  rw [Condition.isOperatorKey, Condition.isOperatorKey, String.toList_append, String.toList_append]
  cases h : field.toList with
  | nil => rfl
  | cons c rest => rfl

theorem isOperatorKey_rangeEntries {t : RecordType} {field : String} {bounds : Bounds}
    {entry : String × Json} (h : entry ∈ rangeEntries t field bounds) :
    Condition.isOperatorKey entry.1 = Condition.isOperatorKey field := by
  rw [rangeEntries] at h
  split at h
  · exact absurd h List.not_mem_nil
  · split at h
    -- A range of an array asks for the places at its bounds.
    · rcases List.mem_append.mp h with hlow | hhigh
      · obtain ⟨n, -, rfl⟩ := List.mem_map.mp hlow
        exact isOperatorKey_point _ _
      · obtain ⟨n, -, rfl⟩ := List.mem_map.mp hhigh
        exact isOperatorKey_point _ _
    · rw [List.mem_singleton.mp h]

theorem hasOperator_rangeClause (t : RecordType) {fields : Entries Bounds}
    (plain : (Filter.range fields).HasPlainNames) :
    hasOperator (rangeClause t fields) = false := by
  rw [hasOperator_eq_false_iff]
  intro entry hentry
  obtain ⟨field, hfield, hrange⟩ := List.mem_flatMap.mp (Entries.mem_of_mem_ofList hentry)
  rw [isOperatorKey_rangeEntries hrange]
  exact plain _ (List.mem_map_of_mem hfield)

/-! ### Every filter -/

section Trees

variable (t : RecordType)

theorem flatMap_map_negate (clauses : List Document) :
    (clauses.map negate).flatMap clauseLiterals
      = (clauses.flatMap clauseLiterals).map complement := by
  rw [List.flatMap_map, List.map_flatMap]
  exact List.flatMap_congr fun c _ => clauseLiterals_negate c

theorem branches_eq_map (fs : List Filter) : branches t fs = (fs.map (query t)).map .obj := by
  induction fs with
  | nil => rfl
  | cons f rest ih => rw [branches, ih, List.map_cons, List.map_cons, query]

mutual

/-- The clauses of a filter have the literals of the filter. -/
theorem flatMap_clauseLiterals : ∀ f : Filter, f.HasPlainNames →
    (clauses t f).flatMap clauseLiterals = literals t f
  | .matching _, plain => flatMap_unlessEmpty (hasOperator_matchingClause plain)
  | .presence _, plain => flatMap_unlessEmpty (hasOperator_presenceClause t plain)
  | .range _, plain => flatMap_unlessEmpty (hasOperator_rangeClause t plain)
  | .and children, plain => flatMap_allClauses children plain
  | .or [], _ => rfl
  | .or (f :: rest), plain => by
    -- An `or` is one clause with an operator, and so one literal.
    rw [clauses, literals, List.isEmpty_cons, if_neg Bool.false_ne_true, if_neg Bool.false_ne_true,
      List.flatMap_singleton, clauseLiterals_of_operator (hasOperator_singleton (by decide) _),
      List.singleton_inj]
    funext d
    rw [branches_eq_map, Query.selects_or]
    exact any_selects (f :: rest) plain d
  | .not child, plain => by
    rw [clauses, literals, flatMap_map_negate, flatMap_clauseLiterals child plain]

theorem flatMap_allClauses : ∀ fs : List Filter,
    (∀ name ∈ allFieldNames fs, Condition.isOperatorKey name = false) →
    (allClauses t fs).flatMap clauseLiterals = allLiterals t fs
  | [], _ => rfl
  | f :: rest, plain => by
    rw [allClauses, allLiterals, List.flatMap_append,
      flatMap_clauseLiterals f fun name h => plain name (List.mem_append_left _ h),
      flatMap_allClauses rest fun name h => plain name (List.mem_append_right _ h)]

theorem any_selects : ∀ fs : List Filter,
    (∀ name ∈ allFieldNames fs, Condition.isOperatorKey name = false) → ∀ d : Document,
    ((fs.map (query t)).any fun q => Query.selects d q) = someChildHolds t fs d
  | [], _, _ => rfl
  | f :: rest, plain, d => by
    rw [List.map_cons, List.any_cons, query, selects_conjunction_eq_all, someChildHolds,
      flatMap_clauseLiterals f fun name h => plain name (List.mem_append_left _ h),
      any_selects rest (fun name h => plain name (List.mem_append_right _ h)) d]

end

theorem selects_negate_negate (d clause : Document) :
    Query.selects d (negate (negate clause)) = Query.selects d clause := by
  rw [selects_eq_all_clauseLiterals, selects_eq_all_clauseLiterals, clauseLiterals_negate,
    clauseLiterals_negate, List.map_map, show complement ∘ complement = id from
      funext complement_complement, List.map_id]

/-- The negation of a filter has the negations of its clauses. -/
theorem query_not (f : Filter) : query t (.not f) = conjunction ((clauses t f).map negate) := by
  rw [query, clauses]

theorem selects_query_not_not (d : Document) (f : Filter) :
    Query.selects d (query t (.not (.not f))) = Query.selects d (query t f) := by
  rw [query_not, clauses, selects_conjunction, query, selects_conjunction, List.all_map,
    List.all_map]
  exact List.all_congr rfl fun c => selects_negate_negate d c

/-- The negation of an `or` has one clause, which is negated as a whole. -/
theorem selects_query_not_or (d : Document) {children : List Filter} (h : children ≠ []) :
    Query.selects d (query t (.not (.or children)))
      = !Query.selects d (query t (.or children)) := by
  rw [query_not, query, clauses, if_neg (by simpa using h), List.map_singleton, conjunction,
    conjunction, selects_eq_all_clauseLiterals, clauseLiterals_negate,
    clauseLiterals_of_operator (hasOperator_singleton (by decide) _), List.map_singleton,
    List.all_cons, List.all_nil, Bool.and_true]
  rfl

theorem allClauses_eq_flatMap (fs : List Filter) : allClauses t fs = fs.flatMap (clauses t) := by
  induction fs with
  | nil => rfl
  | cons f rest ih => rw [allClauses, ih, List.flatMap_cons]

theorem selects_query_and (d : Document) (children : List Filter) :
    Query.selects d (query t (.and children))
      = children.all fun f => Query.selects d (query t f) := by
  rw [query, clauses, allClauses_eq_flatMap, selects_conjunction, List.all_flatMap]
  exact List.all_congr rfl fun f => (selects_conjunction d (clauses t f)).symm

theorem selects_query_or (d : Document) {children : List Filter} (h : children ≠ []) :
    Query.selects d (query t (.or children))
      = children.any fun f => Query.selects d (query t f) := by
  rw [query, clauses, if_neg (by simpa using h), conjunction, branches_eq_map, Query.selects_or,
    List.any_map]
  rfl

/-- The query of a filter selects the documents of which every literal of the filter
holds.  So a doubled negation selects what the filter selects, the negation of an
`or` that has children the opposite, and `and` and `or` combine what their children
select. -/
theorem selects_query (f : Filter) (plain : f.HasPlainNames) (d : Document) :
    (Query.selects d (f.query t) = true ↔ ∀ l ∈ f.literals t, l d = true) ∧
    Query.selects d ((Filter.not (.not f)).query t) = Query.selects d (f.query t) ∧
    (∀ children, f = .or children → children ≠ [] →
      Query.selects d ((Filter.not f).query t) = !Query.selects d (f.query t) ∧
      Query.selects d (f.query t) = children.any fun c => Query.selects d (c.query t)) ∧
    (∀ children, f = .and children →
      Query.selects d (f.query t) = children.all fun c => Query.selects d (c.query t)) := by
  refine ⟨?_, selects_query_not_not t d f, ?_, ?_⟩
  · rw [query, selects_conjunction_eq_all, flatMap_clauseLiterals t f plain, List.all_eq_true]
  · rintro children rfl h
    exact ⟨selects_query_not_or t d h, selects_query_or t d h⟩
  · rintro children rfl
    exact selects_query_and t d children

end Trees

/-- An `or` of a leaf and a negated `and`, on a document with an array. -/
theorem selects_query_nested :
    let t : RecordType :=
      { name := "post", fields := [{ name := "tags", isArray := true }, { name := "score" }]
        nodup := by decide, unreserved := by decide }
    let f : Filter := .or [.matching [("title", .is .null)],
      .not (.and [.presence [("tags", true)], .range [("score", { low := some (.ofNat 3) })]])]
    let d : Document := [("tags", .arr [.str "a"]), ("score", .ofNat 4)]
    f.HasPlainNames ∧ (Query.selects d (f.query t) = true ↔ ∀ l ∈ f.literals t, l d = true) ∧
      Query.selects d ((Filter.not (.not f)).query t) = Query.selects d (f.query t) ∧
      Query.selects d ((Filter.not f).query t) = !Query.selects d (f.query t) := by
  intro t f d
  have plain : f.HasPlainNames := by decide
  obtain ⟨hliterals, htwice, hor, -⟩ := selects_query t f plain d
  exact ⟨plain, hliterals, htwice, (hor _ rfl (by simp)).1⟩

end Filter

end RecordStore
