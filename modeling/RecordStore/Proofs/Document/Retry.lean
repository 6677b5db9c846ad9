/-
Modifiers that can be made once more.

To set a field, to take it out, to add what an array lacks and to pull what meets a condition:
each of these leaves its field as it would leave it again.  So a modifier of such operators that
succeeds can be repeated, and the second time it changes nothing.

* `Modifier.Extends` — the items put behind others because these lack them;
* `Modifier.outcome_settled` — one change, made once more;
* `Modifier.apply_settles` — a modifier, made once more.
-/
import RecordStore.Proofs.Document.Changes

namespace RecordStore

namespace Modifier

/-! ### Items that were lacking -/

/-- Items put behind others, in the order in which they are given: those that are lacking, each of
them once. -/
structure Extends (items given new : List Json) : Prop where
  sublist : new.Sublist given
  absent : ∀ v ∈ new, items.contains v = false
  once : ∀ v ∈ given, items.contains v = false → new.count v = 1

theorem extends_of_complete {items given new : List Json} (hsub : new.Sublist given)
    (habsent : ∀ v ∈ new, items.contains v = false) (hdistinct : Json.Distinct new)
    (hall : ∀ v ∈ given, (items ++ new).contains v = true) : Extends items given new := by
  refine ⟨hsub, habsent, fun v hv hlacking => ?_⟩
  have hcontains := hall v hv
  rw [List.contains_append, hlacking, Bool.false_or, List.contains_iff_exists_mem_beq] at hcontains
  obtain ⟨w, hw, heq⟩ := hcontains
  have hpos : 0 < new.count v := List.countP_pos_iff.mpr ⟨w, hw, BEq.symm heq⟩
  have hle := hdistinct.count_le_one v
  omega

/-! ### Changes that settle their field -/

/-- The operators that leave a field as they would leave it again. -/
def settlingOperators : List String := ["$set", "$unset", "$addToSet", "$pull"]

/-- A change that succeeds is not one of the identifier. -/
theorem field_ne_idKey {c : Change} {current after : Option Json}
    (h : c.outcome current = .ok after) : c.field ≠ Document.idKey := by
  intro hid
  rw [Change.outcome, apply_modifier, applyField, if_pos hid] at h
  exact absurd h (by simp [Except.map])

section Outcomes

variable {field : String} (hne : field ≠ Document.idKey) (operand : Json)
  (current : Option Json)

include hne

theorem outcome_eq (operator : String) :
    (Change.mk operator field operand).outcome current =
      (applyOperator operator field operand (alone field current)).map fun d => d.get? field := by
  rw [Change.outcome, apply_modifier, applyField, if_neg hne]

theorem outcome_set : (Change.mk "$set" field operand).outcome current = .ok (some operand) := by
  rw [outcome_eq hne]
  simp [applyOperator, Except.map]

theorem outcome_unset : (Change.mk "$unset" field operand).outcome current = .ok none := by
  rw [outcome_eq hne]
  simp [applyOperator, Except.map]

/-- Adding to an array, or to a field that is missing. -/
theorem outcome_addToSet_eq_ok_iff {after : Option Json} :
    (Change.mk "$addToSet" field operand).outcome current = .ok after ↔
      ∃ items, (current = none ∧ items = [] ∨ current = some (.arr items)) ∧
        some (.arr ((eachItem operand).foldl addToSet items)) = after := by
  rw [outcome_eq hne]
  simp only [applyOperator, arrayIn, get?_alone]
  cases current with
  | none => simp [bind, Except.bind, pure, Except.pure, Except.map]
  | some v => cases v <;> simp [bind, Except.bind, pure, Except.pure, Except.map]

/-- Pulling from an array, or from a field that is missing. -/
theorem outcome_pull_eq_ok_iff {after : Option Json} :
    (Change.mk "$pull" field operand).outcome current = .ok after ↔
      current = none ∧ after = none ∨ ∃ items, current = some (.arr items) ∧
        some (.arr (items.filter fun item => !Condition.holds (some item) operand)) = after := by
  rw [outcome_eq hne]
  simp only [applyOperator, get?_alone]
  cases current with
  | none => simp [Except.map, get?_alone, eq_comm]
  | some v => cases v <;> simp [Except.map]

end Outcomes

/-- A change by such an operator leaves its field as it would leave it again. -/
theorem outcome_settled {c : Change} {current after : Option Json}
    (hsettling : c.operator ∈ settlingOperators) (h : c.outcome current = .ok after) :
    c.outcome after = .ok after := by
  have hne := field_ne_idKey h
  obtain ⟨operator, field, operand⟩ := c
  simp only [settlingOperators, List.mem_cons, List.not_mem_nil, or_false] at hsettling
  rcases hsettling with rfl | rfl | rfl | rfl
  · rw [outcome_set hne, Except.ok.injEq] at h
    rw [outcome_set hne, h]
  · rw [outcome_unset hne, Except.ok.injEq] at h
    rw [outcome_unset hne, h]
  · obtain ⟨items, -, rfl⟩ := (outcome_addToSet_eq_ok_iff hne operand current).mp h
    obtain ⟨new, hfold, -, -, -, hall⟩ := exists_foldl_addToSet items (eachItem operand)
    refine (outcome_addToSet_eq_ok_iff hne operand _).mpr ⟨items ++ new, .inr ?_, ?_⟩
    · rw [hfold]
    · rw [foldl_addToSet_of_contains hall, hfold]
  · refine (outcome_pull_eq_ok_iff hne operand _).mpr ?_
    rcases (outcome_pull_eq_ok_iff hne operand current).mp h with ⟨-, rfl⟩ | ⟨items, -, rfl⟩
    · exact .inl ⟨rfl, rfl⟩
    · exact .inr ⟨_, rfl, by simp only [List.filter_filter, Bool.and_self]⟩

/-! ### Modifiers made once more -/

/-- A modifier that only sets fields, takes them out, adds to arrays what they lack and pulls from
them, and that names no field twice: where it succeeds, it succeeds once more and changes nothing.
What it adds to an array stands behind the items that are there, each lacking item once, so items
that were distinct still are. -/
theorem apply_settles (modifiers d d₁ : Document) (hd : d.Sorted)
    (hsettling : ∀ p ∈ modifiers, p.1 ∈ settlingOperators)
    (hnames : (fieldsNamed modifiers).Nodup) (h : apply modifiers d = .ok d₁) :
    apply modifiers d₁ = .ok d₁ ∧
    ∀ fields field operand, ("$addToSet", .obj fields) ∈ modifiers → (field, operand) ∈ fields →
      ∃ items new, (d.get? field = none ∧ items = [] ∨ d.get? field = some (.arr items)) ∧
        d₁.get? field = some (.arr (items ++ new)) ∧ Extends items (eachItem operand) new ∧
        (Json.Distinct items → Json.Distinct (items ++ new)) := by
  have hobjects := exists_fields_of_apply h
  rw [apply_eq_applyEach hobjects] at h ⊢
  obtain ⟨hd₁, hchanged, -⟩ := (applyEach_eq_ok_iff hd hnames).mp h
  constructor
  · refine (applyEach_eq_ok_iff hd₁ hnames).mpr ⟨hd₁, fun c hc => ?_, fun _ _ => rfl⟩
    obtain ⟨fields, hp, -⟩ := mem_changes.mp hc
    exact outcome_settled (hsettling _ hp) (hchanged c hc)
  · intro fields field operand hp hfield
    have houtcome := hchanged ⟨"$addToSet", field, operand⟩ (mem_changes.mpr ⟨fields, hp, hfield⟩)
    have hne := field_ne_idKey houtcome
    obtain ⟨items, hitems, hafter⟩ := (outcome_addToSet_eq_ok_iff hne operand _).mp houtcome
    obtain ⟨new, hfold, hsub, habsent, hdistinct, hall⟩ :=
      exists_foldl_addToSet items (eachItem operand)
    rw [hfold] at hafter
    exact ⟨items, new, hitems, hafter.symm, extends_of_complete hsub habsent hdistinct hall,
      fun hdistinct' => hdistinct'.append hdistinct habsent⟩

/-- All four operators, with a list that repeats an item, a condition, and objects whose keys are
operators. -/
theorem apply_settles_four :
    let d : Document :=
      [("_id", .str "p1"), ("old", .bool true), ("scores", .arr [.ofNat 1, .ofNat 7, .ofNat 2]),
        ("tags", .arr [.str "a"])]
    let modifiers : Document :=
      [("$addToSet", .obj
          [("links", .obj [("$ne", .null)]),
            ("tags", .obj [("$each", .arr [.str "b", .str "a", .str "b"])])]),
        ("$pull", .obj [("scores", .obj [("$gt", .ofNat 1)])]),
        ("$set", .obj [("home", .obj [("$in", .arr [])])]),
        ("$unset", .obj [("old", .null)])]
    let d₁ : Document :=
      [("_id", .str "p1"), ("home", .obj [("$in", .arr [])]),
        ("links", .arr [.obj [("$ne", .null)]]), ("scores", .arr [.ofNat 1]),
        ("tags", .arr [.str "a", .str "b"])]
    d.Sorted ∧ (∀ p ∈ modifiers, p.1 ∈ settlingOperators) ∧ (fieldsNamed modifiers).Nodup ∧
      apply modifiers d = .ok d₁ ∧ apply modifiers d₁ = .ok d₁ ∧
      ∃ items new, d.get? "tags" = some (.arr items) ∧ d₁.get? "tags" = some (.arr (items ++ new)) ∧
        Extends items [.str "b", .str "a", .str "b"] new := by
  intro d modifiers d₁
  have hd : d.Sorted := Entries.sorted_ofList d
  have hsettling : ∀ p ∈ modifiers, p.1 ∈ settlingOperators := by decide
  have hnames : (fieldsNamed modifiers).Nodup := by decide
  have happly : apply modifiers d = .ok d₁ := rfl
  obtain ⟨hagain, hadded⟩ := apply_settles modifiers d d₁ hd hsettling hnames happly
  obtain ⟨items, new, hitems, hnew, hextends, -⟩ :=
    hadded _ "tags" _ List.mem_cons_self (List.mem_cons_of_mem _ List.mem_cons_self)
  have hthere : d.get? "tags" = some (.arr items) := by
    rcases hitems with ⟨hmissing, -⟩ | hthere
    · exact absurd hmissing (by simp [d])
    · exact hthere
  exact ⟨hd, hsettling, hnames, happly, hagain, items, new, hthere, hnew, hextends⟩

end Modifier

end RecordStore
