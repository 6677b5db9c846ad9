/-
What the negation of a leaf selects.

The negation of a clause complements its literals one by one, so a filter and its negation
never select the same document unless the filter says nothing, and both may pass a document
over: they do if some of the literals hold of it and others do not.  A leaf about one field
has a single literal, and its negation selects just the other documents, with one exception.
A range of an array that is bounded on both sides asks for two places in the array, each a
literal of its own.  Its negation asks for an array that lacks the first place and has the
second, which no array does; a document whose array is too short or too long is passed over
by both.

* `Filter.selects_not_iff` — the negation of a filter, in terms of its literals;
* `Filter.OneField` — the leaves about one field;
* `Filter.lengthBounds?` — the bounds of a range of an array that has both;
* `Filter.selects_not_leaf` — when the negation of a leaf selects just the other documents.
-/
import RecordStore.Proofs.Filter.Leaves

namespace RecordStore

namespace Filter

/-! ### Negations in terms of literals -/

section Literals

variable (t : RecordType) {f : Filter} (plain : f.HasPlainNames) (d : Document)

include plain

theorem selects_iff : Query.selects d (query t f) = true ↔ ∀ l ∈ literals t f, l d = true := by
  rw [query, selects_conjunction_eq_all, flatMap_clauseLiterals t f plain, List.all_eq_true]

/-- A negation selects the documents of which every literal fails. -/
theorem selects_not_iff :
    Query.selects d (query t (.not f)) = true ↔ ∀ l ∈ literals t f, l d = false := by
  have hnot : (Filter.not f).HasPlainNames := plain
  rw [selects_iff t hnot, literals, List.forall_mem_map]
  refine forall₂_congr fun l _ => ?_
  rw [complement, Bool.not_eq_true']

/-- Where a filter says something, it and its negation split the documents of which its
literals all hold or all fail. -/
theorem selects_not_eq_not_iff (hliterals : literals t f ≠ []) :
    Query.selects d (query t (.not f)) = !Query.selects d (query t f) ↔
      ∀ l ∈ literals t f, ∀ l' ∈ literals t f, l d = l' d := by
  have hall := selects_iff t plain d
  have hnone := selects_not_iff t plain d
  obtain ⟨first, hfirst⟩ := List.exists_mem_of_ne_nil _ hliterals
  constructor
  · intro hsplit l hl l' hl'
    cases hselected : Query.selects d (query t f) with
    | true => rw [hall.mp hselected l hl, hall.mp hselected l' hl']
    | false =>
      rw [hselected] at hsplit
      rw [hnone.mp hsplit l hl, hnone.mp hsplit l' hl']
  · intro hsame
    -- Some literal has to hold or to fail, and all others do the same.
    cases hvalue : first d with
    | true =>
      have hselected := hall.mpr fun l hl => (hsame l hl first hfirst).trans hvalue
      rw [hselected, Bool.not_true, ← Bool.not_eq_true, hnone]
      exact fun hfails => absurd (hfails first hfirst) (by rw [hvalue]; simp)
    | false =>
      have hselected := hnone.mpr fun l hl => (hsame l hl first hfirst).trans hvalue
      rw [hselected, eq_comm, Bool.not_eq_true', ← Bool.not_eq_true, hall]
      exact fun hholds => absurd (hholds first hfirst) (by rw [hvalue]; simp)

end Literals

/-! ### Leaves about one field -/

/-- A leaf about one field. -/
inductive OneField (field : String) : Filter → Prop
  | matching (c : Constraint) : OneField field (.matching [(field, c)])
  | presence (expected : Bool) : OneField field (.presence [(field, expected)])
  | range (bounds : Bounds) : OneField field (.range [(field, bounds)])

/-- The least and the greatest number of items that a range of one array asks for, if it is
bounded on both sides.  No number at all is less than zero, so that is no bound. -/
def lengthBounds? (t : RecordType) : Filter → Option (Nat × Nat)
  | .range [(field, bounds)] =>
    if t.isArray field then do
      let low ← (bounds.low?.bind Json.length?).filter (0 < ·)
      let high ← bounds.high?.bind Json.length?
      return (low, high)
    else none
  | _ => none

variable {t : RecordType} {field : String} {leaf : Filter}

theorem OneField.hasPlainNames (hleaf : OneField field leaf)
    (plain : Condition.isOperatorKey field = false) : leaf.HasPlainNames := by
  intro name hname
  cases hleaf with
  | matching c => rwa [List.mem_singleton.mp hname]
  | presence expected => rwa [List.mem_singleton.mp hname]
  | range bounds => rwa [List.mem_singleton.mp hname]

/-- The query of a leaf is its clause, and the entries of the clause are its literals. -/
theorem OneField.literals_eq (hleaf : OneField field leaf) :
    literals t leaf = pathLiterals (query t leaf) := by
  cases hleaf with
  | matching c => rw [query, clauses, conjunction_unlessEmpty, literals]
  | presence expected => rw [query, clauses, conjunction_unlessEmpty, literals]
  | range bounds => rw [query, clauses, conjunction_unlessEmpty, literals]

/-- A range of an array with both bounds has two literals, unless both are about one place. -/
theorem literals_of_lengthBounds {low high : Nat} (hleaf : OneField field leaf)
    (hbounds : leaf.lengthBounds? t = some (low, high)) (hne : low ≠ high + 1) :
    (literals t leaf).Perm
      [fun d => (d.resolve? (placePath field (low - 1))).isSome,
        fun d => !(d.resolve? (placePath field high)).isSome] := by
  rw [hleaf.literals_eq]
  cases hleaf with
  | matching c => exact absurd hbounds (by simp [lengthBounds?])
  | presence expected => exact absurd hbounds (by simp [lengthBounds?])
  | range bounds =>
    by_cases harray : t.isArray field = true
    · rw [lengthBounds?, if_pos harray] at hbounds
      obtain ⟨least, hlow, hrest⟩ := Option.bind_eq_some_iff.mp hbounds
      obtain ⟨greatest, hhigh, hpair⟩ := Option.bind_eq_some_iff.mp hrest
      obtain ⟨rfl, rfl⟩ := Prod.mk.inj (Option.some_inj.mp hpair)
      have hpositive : 0 < least := by simpa using (Option.mem_filter_iff.mp hlow).2
      have hnodup : (Entries.keys
          [(placePath field (least - 1), Json.obj [("$exists", .bool true)]),
            (placePath field greatest, .obj [("$exists", .bool false)])]).Nodup := by
        have hkeys := (placePath_injective field).ne (show least - 1 ≠ greatest by omega)
        simpa [Entries.keys] using hkeys
      have hentries : query t (.range [(field, bounds)]) = _ := query_range bounds
      rw [rangeEntries_of_isArray harray, hlow, hhigh] at hentries
      rw [hentries]
      refine ((Entries.perm_ofList hnodup).map _).trans (List.Perm.of_eq ?_)
      simp only [List.map_cons, List.map_nil, holds_exists, beq_true, beq_false]
    · rw [lengthBounds?, if_neg harray] at hbounds
      exact absurd hbounds (by simp)

/-- Any other leaf has a single literal, if it has any. -/
theorem exists_literals_eq_singleton (hleaf : OneField field leaf) (hquery : query t leaf ≠ [])
    (hbounds : ∀ low high, leaf.lengthBounds? t = some (low, high) → low = high + 1) :
    ∃ l, literals t leaf = [l] := by
  rw [hleaf.literals_eq]
  suffices hsingle : ∃ entry, query t leaf = [entry] by
    obtain ⟨entry, hentry⟩ := hsingle
    rw [hentry]
    exact ⟨_, rfl⟩
  cases hleaf with
  | matching c => exact ⟨_, rfl⟩
  | presence expected =>
    rw [query, clauses, conjunction_unlessEmpty, presenceClause, List.filterMap_cons,
      List.filterMap_nil] at hquery ⊢
    cases hf : t.field? field with
    | none =>
      simp only [hf] at hquery
      exact absurd rfl hquery
    | some f =>
      simp only [hf]
      exact ⟨_, rfl⟩
  | range bounds =>
    rw [query_range] at hquery ⊢
    cases hf : t.field? field with
    | none =>
      rw [rangeEntries, hf] at hquery
      exact absurd rfl hquery
    | some f =>
      cases harray : f.isArray with
      | false =>
        rw [rangeEntries, hf]
        dsimp only
        rw [harray, if_neg Bool.false_ne_true]
        exact ⟨_, rfl⟩
      | true =>
        have hisArray : t.isArray field = true := by rw [RecordType.isArray, hf]; exact harray
        rw [lengthBounds?, if_pos hisArray] at hbounds
        rw [rangeEntries_of_isArray hisArray] at hquery ⊢
        cases hlow : (bounds.low?.bind Json.length?).filter (0 < ·) with
        | none =>
          cases hhigh : bounds.high?.bind Json.length? with
          | none =>
            rw [hlow, hhigh] at hquery
            exact absurd rfl hquery
          | some high => exact ⟨_, rfl⟩
        | some low =>
          cases hhigh : bounds.high?.bind Json.length? with
          | none => exact ⟨_, rfl⟩
          -- Both bounds are about one place, and the upper one overwrites the lower one.
          | some high =>
            rw [hlow, hhigh] at hbounds
            obtain rfl := hbounds low high rfl
            refine ⟨(placePath field high, .obj [("$exists", .bool false)]), ?_⟩
            exact Entries.insert_insert [] _ _ _

/-- The negation of a leaf about one field selects just the documents that the leaf does not
select, unless the leaf is a range of an array with bounds on both sides.  Such a range and
its negation split the documents that have one of the two places asked for and not the
other, and pass over all others.  No document is ever selected by both. -/
theorem selects_not_leaf (t : RecordType) {field : String} {leaf : Filter}
    (plain : Condition.isOperatorKey field = false) (hleaf : OneField field leaf)
    (hquery : leaf.query t ≠ []) (d : Document) :
    (Query.selects d ((Filter.not leaf).query t) = !Query.selects d (leaf.query t) ↔
      ∀ low high, leaf.lengthBounds? t = some (low, high) → low ≠ high + 1 →
        (d.resolve? (placePath field (low - 1))).isSome ≠
          (d.resolve? (placePath field high)).isSome) ∧
    ¬(Query.selects d (leaf.query t) = true ∧
      Query.selects d ((Filter.not leaf).query t) = true) := by
  have hplain := hleaf.hasPlainNames plain
  have hliterals : literals t leaf ≠ [] := by
    rw [hleaf.literals_eq, pathLiterals, Ne, List.map_eq_nil_iff]
    exact hquery
  constructor
  · rw [selects_not_eq_not_iff t hplain d hliterals]
    by_cases hbounds : ∃ low high, leaf.lengthBounds? t = some (low, high) ∧ low ≠ high + 1
    · obtain ⟨low, high, hboth, hne⟩ := hbounds
      have hperm := literals_of_lengthBounds hleaf hboth hne
      simp only [hperm.mem_iff, List.mem_cons, List.not_mem_nil, or_false, forall_eq_or_imp,
        forall_eq, hboth]
      constructor
      · rintro ⟨⟨-, hsame⟩, -⟩ low' high' heq -
        obtain ⟨rfl, rfl⟩ := Prod.mk.inj (Option.some_inj.mp heq)
        exact Bool.eq_not.mp hsame
      · intro hplaces
        have hsame := Bool.eq_not.mpr (hplaces low high rfl hne)
        exact ⟨⟨trivial, hsame⟩, hsame.symm, trivial⟩
    · have hsingle : ∃ l, literals t leaf = [l] := by
        refine exists_literals_eq_singleton hleaf hquery fun low high hboth => ?_
        by_contra hne
        exact hbounds ⟨low, high, hboth, hne⟩
      obtain ⟨l, hl⟩ := hsingle
      refine iff_of_true ?_ fun low high hboth hne => absurd ⟨low, high, hboth, hne⟩ hbounds
      intro l₁ h₁ l₂ h₂
      rw [hl, List.mem_singleton] at h₁ h₂
      rw [h₁, h₂]
  · rintro ⟨hselected, hnot⟩
    obtain ⟨l, hl⟩ := List.exists_mem_of_ne_nil _ hliterals
    have hholds := (selects_iff t hplain d).mp hselected l hl
    have hfails := (selects_not_iff t hplain d).mp hnot l hl
    exact absurd (hholds.symm.trans hfails) (by simp)

/-- A range from two items to four and an array of three. -/
theorem selects_not_leaf_within :
    let t : RecordType :=
      { name := "post", fields := [{ name := "tags", isArray := true }]
        nodup := by decide, unreserved := by decide }
    let leaf : Filter := .range [("tags", { low := some (.ofNat 2), high := some (.ofNat 4) })]
    let d : Document := [("tags", .arr [.str "a", .str "b", .str "c"])]
    Condition.isOperatorKey "tags" = false ∧ OneField "tags" leaf ∧ leaf.query t ≠ [] ∧
      leaf.lengthBounds? t = some (2, 4) ∧ (d.resolve? (placePath "tags" 1)).isSome = true ∧
      (d.resolve? (placePath "tags" 4)).isSome = false ∧
      Query.selects d ((Filter.not leaf).query t) = !Query.selects d (leaf.query t) := by
  intro t leaf d
  have plain : Condition.isOperatorKey "tags" = false := by decide
  have hleaf : OneField "tags" leaf := .range _
  have hbounds : leaf.lengthBounds? t = some (2, 4) := rfl
  have hfirst : (d.resolve? (placePath "tags" 1)).isSome = true := by decide +kernel
  have hlast : (d.resolve? (placePath "tags" 4)).isSome = false := by decide +kernel
  have hquery : leaf.query t ≠ [] := List.cons_ne_nil _ _
  refine ⟨plain, hleaf, hquery, hbounds, hfirst, hlast, ?_⟩
  refine (selects_not_leaf t plain hleaf hquery d).1.mpr fun low high hboth _ => ?_
  obtain ⟨rfl, rfl⟩ := Prod.mk.inj (Option.some_inj.mp (hbounds.symm.trans hboth))
  rw [hfirst, hlast]
  exact Bool.noConfusion

/-- An array of one item: neither the range from two items to four selects it nor the
negation of that range. -/
theorem selects_not_leaf_too_short :
    let t : RecordType :=
      { name := "post", fields := [{ name := "tags", isArray := true }]
        nodup := by decide, unreserved := by decide }
    let leaf : Filter := .range [("tags", { low := some (.ofNat 2), high := some (.ofNat 4) })]
    let d : Document := [("tags", .arr [.str "a"])]
    Condition.isOperatorKey "tags" = false ∧ OneField "tags" leaf ∧ leaf.query t ≠ [] ∧
      Query.selects d (leaf.query t) = false ∧
      Query.selects d ((Filter.not leaf).query t) = false := by
  intro t leaf d
  refine ⟨by decide, .range _, ?_, ?_, ?_⟩
  · exact List.cons_ne_nil _ _
  · rfl
  · rfl

end Filter

end RecordStore
