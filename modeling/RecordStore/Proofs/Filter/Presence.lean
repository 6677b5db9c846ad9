/-
What a filter of presence selects.

Presence is asked for by comparing with the default value of the field, and equality reads
values in ways of its own: a missing value counts as null but not as an array without items,
and an array equals each of its items.  So a plain field counts as absent if it holds an array
with a null among its items, and an array field counts as absent just if it holds an array
that is empty or has an empty array among its items: not if the field is missing, null or
anything else that is no array.

* `Field.presentIn` — a value other than null, or an array that has items;
* `Filter.holds_presenceCondition` — the condition in terms of the default value;
* `Filter.selects_presence` — when a filter of presence tells whether the field is present.
-/
import RecordStore.Proofs.Filter.Leaves
import RecordStore.Proofs.Json.Equality
import RecordStore.Proofs.Query.Path
import RecordStore.Proofs.Schema.RecordType

namespace RecordStore

/-! ### Default values -/

theorem Json.beq_null (v : Json) : (v == .null) = v.isNull := by
  cases v <;> rfl

theorem Json.beq_empty (v : Json) : (v == .arr []) = v.items?.any List.isEmpty := by
  cases v with
  | arr items => cases items <;> rfl
  | _ => rfl

namespace Field

/-- Whether a document has something under a field: a value other than null, or under an array
field an array that has items. -/
def presentIn (f : Field) (d : Document) : Bool :=
  match d.get? f.name with
  | none => false
  | some v => if f.isArray then v.items?.any fun items => !items.isEmpty else !v.isNull

theorem beq_default_iff (f : Field) (v : Json) : (v == f.default) = true ↔ v = f.default := by
  rw [default]
  cases f.isArray with
  | false =>
    rw [if_neg Bool.false_ne_true, Json.beq_null]
    cases v <;> simp [Json.isNull]
  | true =>
    rw [if_pos rfl, Json.beq_empty]
    cases v <;> simp [Json.items?]

theorem contains_default_iff (f : Field) (items : List Json) :
    items.contains f.default = true ↔ f.default ∈ items := by
  rw [List.contains_iff_exists_mem_beq]
  constructor
  · rintro ⟨v, hv, heq⟩
    rw [Json.beq_comm, f.beq_default_iff] at heq
    rwa [← heq]
  · intro hmem
    exact ⟨f.default, hmem, Json.beq_self _⟩

end Field

namespace Filter

/-- Presence asks whether a value differs from the default value, absence whether it equals it. -/
theorem holds_presenceCondition (f : Field) (expected : Bool) (actual : Option Json) :
    Condition.holds actual (presenceCondition f expected) =
      (Condition.equals actual f.default != expected) := by
  cases expected with
  | true =>
    rw [presenceCondition, if_pos rfl, Condition.holds_operator _ (by decide) (by decide),
      Bool.bne_true]
    rfl
  | false =>
    have hliteral : Condition.holds actual f.default = Condition.equals actual f.default := by
      rw [Field.default]
      cases f.isArray <;> rfl
    rw [presenceCondition, if_neg Bool.false_ne_true, hliteral, Bool.bne_false]

section Fields

variable {t : RecordType} {f : Field} (d : Document)

/-- What differs from null is present under a plain field, but for an array with a null in it. -/
theorem not_equals_default_of_plain (hplain : f.isArray = false) :
    (!Condition.equals (d.get? f.name) f.default) = f.presentIn d ↔
      ∀ items, d.get? f.name = some (.arr items) → f.default ∉ items := by
  have hdefault : f.default = .null := by rw [Field.default, hplain]; rfl
  rw [Field.presentIn, hplain]
  cases hvalue : d.get? f.name with
  | none => simp [Condition.equals, hdefault, Json.isNull]
  | some v =>
    cases v with
    | arr items =>
      have hcontains := f.contains_default_iff items
      rw [hdefault] at hcontains
      simp [Condition.equals, hdefault, Json.beq_null, Json.isNull, ← hcontains]
    | _ => simp [Condition.equals, hdefault, Json.beq_null, Json.isNull]

/-- Under an array field only an array can equal the empty one, and one with an empty array in
it does too. -/
theorem not_equals_default_of_array (harray : f.isArray = true) :
    (!Condition.equals (d.get? f.name) f.default) = f.presentIn d ↔
      ∃ items, d.get? f.name = some (.arr items) ∧ f.default ∉ items := by
  have hdefault : f.default = .arr [] := by rw [Field.default, harray]; rfl
  rw [Field.presentIn, harray]
  cases hvalue : d.get? f.name with
  | none => simp [Condition.equals, hdefault, Json.isNull]
  | some v =>
    cases v with
    | arr items =>
      have hcontains := f.contains_default_iff items
      rw [hdefault] at hcontains
      cases items with
      | nil => simp [Condition.equals, hdefault, Json.items?]
      | cons first rest =>
        simp [Condition.equals, hdefault, Json.beq_empty, Json.items?, ← hcontains]
    | _ => simp [Condition.equals, hdefault, Json.beq_empty, Json.items?]

variable (hf : f ∈ t.fields) (plain : Condition.isOperatorKey f.name = false)
  (hpoint : '.' ∉ f.name.toList)

include hf plain hpoint

/-- The query of a presence compares what stands under the field with its default value. -/
theorem selects_query_presence (expected : Bool) :
    Query.selects d ((Filter.presence [(f.name, expected)]).query t) =
      (Condition.equals (d.get? f.name) f.default != expected) := by
  rw [query_presence (t.field?_of_mem hf), selects_entry plain, d.resolve?_of_notMem hpoint,
    holds_presenceCondition]

/-- A filter of presence tells whether the field is present, and one of absence whether it is
not, just where no array under the field has the default value of the field among its items
and an array field holds an array.  Every document is selected by just one of the two. -/
theorem selects_presence (expected : Bool) :
    (Query.selects d ((Filter.presence [(f.name, expected)]).query t)
        = (f.presentIn d == expected) ↔
      (∀ items, d.get? f.name = some (.arr items) → f.default ∉ items) ∧
        (f.isArray = true → ∃ items, d.get? f.name = some (.arr items))) ∧
    Query.selects d ((Filter.presence [(f.name, false)]).query t)
      = !Query.selects d ((Filter.presence [(f.name, true)]).query t) := by
  have hquery := selects_query_presence d hf plain hpoint
  constructor
  · have hexpected : ∀ a b : Bool, (a != expected) = (b == expected) ↔ (!a) = b := by
      cases expected <;> decide
    rw [hquery, hexpected]
    cases harray : f.isArray with
    | false =>
      rw [not_equals_default_of_plain d harray]
      simp
    | true =>
      rw [not_equals_default_of_array d harray]
      constructor
      · rintro ⟨items, hitems, hnot⟩
        refine ⟨fun items' hitems' => ?_, fun _ => ⟨items, hitems⟩⟩
        rw [hitems, Option.some_inj, Json.arr.injEq] at hitems'
        rwa [← hitems']
      · rintro ⟨hnot, hholds⟩
        obtain ⟨items, hitems⟩ := hholds rfl
        exact ⟨items, hitems, hnot items hitems⟩
  · rw [hquery, hquery, Bool.bne_true, Bool.bne_false, Bool.not_not]

end Fields

/-- A plain field with an array of texts under it is present. -/
theorem selects_presence_texts :
    let f : Field := { name := "title" }
    let t : RecordType :=
      { name := "post", fields := [f], nodup := by decide, unreserved := by decide }
    let d : Document := [("title", .arr [.str "a"])]
    f ∈ t.fields ∧ Condition.isOperatorKey f.name = false ∧ '.' ∉ f.name.toList ∧
      Query.selects d ((Filter.presence [(f.name, true)]).query t) = f.presentIn d := by
  intro f t d
  have hf : f ∈ t.fields := List.mem_singleton_self _
  have plain : Condition.isOperatorKey f.name = false := by decide
  have hpoint : '.' ∉ f.name.toList := by decide
  have hd : d.get? f.name = some (.arr [.str "a"]) := rfl
  have hitems : ∀ items, d.get? f.name = some (.arr items) → f.default ∉ items := by
    intro items hitems
    obtain rfl := Json.arr.inj (Option.some_inj.mp (hd.symm.trans hitems))
    show Json.null ∉ [Json.str "a"]
    simp
  have hpresent := (selects_presence d hf plain hpoint true).1.mpr ⟨hitems, Bool.noConfusion⟩
  exact ⟨hf, plain, hpoint, hpresent.trans (beq_true _)⟩

/-- An array field that a document has no value for is missing, and the filter that asks for
its presence selects the document. -/
theorem selects_presence_missing :
    let f : Field := { name := "tags", isArray := true }
    let t : RecordType :=
      { name := "post", fields := [f], nodup := by decide, unreserved := by decide }
    let d : Document := [("_id", .str "p1")]
    f.presentIn d = false ∧
      Query.selects d ((Filter.presence [(f.name, true)]).query t) = true ∧
      Query.selects d ((Filter.presence [(f.name, false)]).query t) = false := by
  decide +kernel

end Filter

end RecordStore
