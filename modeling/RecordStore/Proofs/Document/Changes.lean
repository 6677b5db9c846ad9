/-
Modifiers as lists of changes.

A modifier lists changes, each of one field by one operator.  What a change makes of its field
depends on what stands in that field and on nothing else, and it touches no other field.  So it
is of no account when a change is made, as long as no other change is of the same field: every
order of the changes comes to the same document, or else comes upon a change that fails.

* `Modifier.Change`, `Modifier.changes` — changes of single fields, and those that a modifier
  lists;
* `Modifier.Change.outcome` — what a change makes of its field;
* `Modifier.apply_modifier_eq_ok_iff`, `Modifier.applyEach_eq_ok_iff` — the document after one
  change, and after several;
* `Modifier.apply_in_any_order` — a modifier against its changes in any order.
-/
import RecordStore.Proofs.Document.Modifier

namespace RecordStore

namespace Modifier

/-! ### Changes of single fields -/

/-- A change of one field by one operator. -/
structure Change where
  operator : String
  field : String
  operand : Json

/-- The modifier with this change alone. -/
def Change.modifier (c : Change) : Document := [(c.operator, .obj [(c.field, c.operand)])]

/-- The changes that an operator with its fields stands for. -/
def changesOf (entry : String × Json) : List Change :=
  (entry.2.entries?.getD []).map fun p => ⟨entry.1, p.1, p.2⟩

/-- The changes that a modifier lists, in the order in which it makes them. -/
def changes (modifiers : Document) : List Change := modifiers.flatMap changesOf

/-- The fields that a modifier names, once for each operator that has them. -/
def fieldsNamed (modifiers : Document) : List String := (changes modifiers).map Change.field

/-- Changes made one after the other, each by a modifier of its own. -/
def applyEach (cs : List Change) (d : Document) : Except ModifierError Document :=
  cs.foldlM (fun d c => apply c.modifier d) d

theorem apply_modifier (c : Change) (d : Document) :
    apply c.modifier d = applyField c.operator d (c.field, c.operand) := by
  rw [Change.modifier, apply_singleton, List.foldlM_cons]
  exact bind_pure _

/-- A modifier makes the changes that it lists. -/
theorem apply_eq_applyEach {modifiers : Document}
    (hobjects : ∀ p ∈ modifiers, ∃ fields, p.2 = .obj fields) (d : Document) :
    apply modifiers d = applyEach (changes modifiers) d := by
  have hentry : ∀ p ∈ modifiers, ∀ e, applyEntry e p = applyEach (changesOf p) e := by
    rintro ⟨operator, operand⟩ hp e
    obtain ⟨fields, rfl⟩ := hobjects _ hp
    simp only [applyEach, changesOf, Json.entries?, Option.getD_some, List.foldlM_map,
      apply_modifier, applyEntry]
  clear hobjects
  induction modifiers generalizing d with
  | nil => rfl
  | cons p rest ih =>
    have hrest := fun e => ih e fun q hq => hentry q (List.mem_cons_of_mem _ hq)
    rw [changes, List.flatMap_cons, applyEach, List.foldlM_append, apply, List.foldlM_cons,
      hentry p List.mem_cons_self]
    exact congrArg _ (funext hrest)

/-- A modifier that succeeds has an object of fields under each operator. -/
theorem exists_fields_of_apply {modifiers d d' : Document} (h : apply modifiers d = .ok d') :
    ∀ p ∈ modifiers, ∃ fields, p.2 = .obj fields := by
  induction modifiers generalizing d with
  | nil => simp
  | cons p rest ih =>
    rw [apply, List.foldlM_cons, Except.bind_eq_ok_iff] at h
    obtain ⟨e, hfirst, hrest⟩ := h
    refine List.forall_mem_cons.mpr ⟨?_, ih hrest⟩
    unfold applyEntry at hfirst
    split at hfirst
    · rename_i fields heq
      exact ⟨fields, heq⟩
    · exact absurd hfirst (by simp)

theorem mem_changes {modifiers : Document} {c : Change} :
    c ∈ changes modifiers ↔
      ∃ fields, (c.operator, .obj fields) ∈ modifiers ∧ (c.field, c.operand) ∈ fields := by
  rw [changes, List.mem_flatMap]
  constructor
  · rintro ⟨⟨operator, operand⟩, hp, hc⟩
    obtain ⟨⟨field, v⟩, hfield, rfl⟩ := List.mem_map.mp hc
    cases operand with
    | obj fields => exact ⟨fields, hp, hfield⟩
    | _ => exact absurd hfield List.not_mem_nil
  · rintro ⟨fields, hp, hfield⟩
    exact ⟨_, hp, List.mem_map.mpr ⟨_, hfield, rfl⟩⟩

/-! ### What a change makes of its field -/

/-- The document with one field, or with none if that is missing. -/
def alone (field : String) (current : Option Json) : Document := Entries.put [] field current

theorem get?_alone (field : String) (current : Option Json) :
    (alone field current).get? field = current := by
  rw [alone, Entries.get?_put, if_pos rfl]

/-- What a change makes of its field where there are no other fields. -/
def Change.outcome (c : Change) (current : Option Json) : Except ModifierError (Option Json) :=
  (apply c.modifier (alone c.field current)).map fun d => d.get? c.field

/-- An operator does to a field what it would do if there were no other fields. -/
theorem applyOperator_eq (operator field : String) (operand : Json) (d : Document) :
    applyOperator operator field operand d =
      (applyOperator operator field operand (alone field (d.get? field))).map fun e =>
        d.put field (e.get? field) := by
  have hinsert : ∀ (e : Document) v, d.put field ((e.insert field v).get? field) =
      d.insert field v := by
    intro e v
    rw [Entries.get?_insert, if_pos rfl]
    rfl
  have herase : ∀ e : Document, d.put field ((e.erase field).get? field) = d.erase field := by
    intro e
    rw [Entries.get?_erase, if_pos rfl]
    rfl
  unfold applyOperator arrayIn
  rw [get?_alone]
  split
  · exact congrArg Except.ok (hinsert _ _).symm
  · exact congrArg Except.ok (herase _).symm
  · split
    · exact congrArg Except.ok (hinsert _ _).symm
    · exact congrArg Except.ok (hinsert _ _).symm
    · rfl
  · split
    · exact congrArg Except.ok (hinsert _ _).symm
    · exact congrArg Except.ok (hinsert _ _).symm
    · rfl
  · split
    · exact congrArg Except.ok (hinsert _ _).symm
    · exact congrArg Except.ok (hinsert _ _).symm
    · rfl
  · split
    · rename_i hmissing
      have hnothing : d.put field ((alone field (d.get? field)).get? field) = d := by
        rw [get?_alone, hmissing]
        exact Entries.erase_of_missing hmissing
      exact congrArg Except.ok hnothing.symm
    · exact congrArg Except.ok (hinsert _ _).symm
    · rfl
  · rfl

/-- A change does to its field what it would do if there were no other fields. -/
theorem apply_modifier_eq (c : Change) (d : Document) :
    apply c.modifier d = (c.outcome (d.get? c.field)).map (d.put c.field) := by
  rw [Change.outcome, apply_modifier, apply_modifier, applyField, applyField]
  split
  · rfl
  · rw [applyOperator_eq]
    cases applyOperator c.operator c.field c.operand (alone c.field (d.get? c.field)) <;> rfl

variable {d d' : Document}

/-- The document after a change. -/
theorem apply_modifier_eq_ok_iff (hd : d.Sorted) (c : Change) :
    apply c.modifier d = .ok d' ↔ d'.Sorted ∧
      c.outcome (d.get? c.field) = .ok (d'.get? c.field) ∧
      ∀ key, key ≠ c.field → d'.get? key = d.get? key := by
  rw [apply_modifier_eq, Except.map_eq_ok_iff]
  simp only [hd.put_eq_iff]
  constructor
  · rintro ⟨v, hv, hd', hfield, hother⟩
    exact ⟨hd', hfield.symm ▸ hv, hother⟩
  · rintro ⟨hd', hfield, hother⟩
    exact ⟨_, hfield, hd', rfl, hother⟩

/-! ### Changes in any order -/

/-- The document after changes of different fields: each field is changed on its own. -/
theorem applyEach_eq_ok_iff {cs : List Change} (hd : d.Sorted)
    (nodup : (cs.map Change.field).Nodup) :
    applyEach cs d = .ok d' ↔ d'.Sorted ∧
      (∀ c ∈ cs, c.outcome (d.get? c.field) = .ok (d'.get? c.field)) ∧
      ∀ key, key ∉ cs.map Change.field → d'.get? key = d.get? key := by
  induction cs generalizing d with
  | nil =>
    constructor
    · intro h
      obtain rfl : d = d' := Except.ok.inj h
      exact ⟨hd, by simp, fun _ _ => rfl⟩
    · rintro ⟨hd', -, hsame⟩
      exact congrArg Except.ok (hd.eq_of_get? hd' fun key => (hsame key (by simp)).symm)
  | cons c rest ih =>
    rw [List.map_cons, List.nodup_cons] at nodup
    obtain ⟨hnew, nodup'⟩ := nodup
    rw [applyEach, List.foldlM_cons, Except.bind_eq_ok_iff]
    constructor
    · rintro ⟨e, hfirst, hrest⟩
      obtain ⟨he, hfield, hother⟩ := (apply_modifier_eq_ok_iff hd c).mp hfirst
      obtain ⟨hd', hfields, hothers⟩ := (ih he nodup').mp hrest
      refine ⟨hd', List.forall_mem_cons.mpr ⟨?_, fun c' hc' => ?_⟩, fun key hkey => ?_⟩
      · rw [hothers c.field hnew]
        exact hfield
      · have hne : c'.field ≠ c.field := by
          intro heq
          exact hnew (heq ▸ List.mem_map_of_mem hc')
        rw [← hother c'.field hne]
        exact hfields c' hc'
      · rw [List.map_cons, List.mem_cons, not_or] at hkey
        rw [hothers key hkey.2, hother key hkey.1]
    · rintro ⟨hd', hfields, hothers⟩
      obtain ⟨hfield, hfields'⟩ := List.forall_mem_cons.mp hfields
      -- The first change takes the one field to where it is in the end.
      refine ⟨d.put c.field (d'.get? c.field), ?_, (ih (hd.put _ _) nodup').mpr
        ⟨hd', fun c' hc' => ?_, fun key hkey => ?_⟩⟩
      · rw [apply_modifier_eq, hfield]
        rfl
      · have hne : c.field ≠ c'.field := by
          intro heq
          exact hnew (heq ▸ List.mem_map_of_mem hc')
        rw [Entries.get?_put, if_neg hne]
        exact hfields' c' hc'
      · rw [Entries.get?_put]
        split
        · rename_i heq
          rw [heq]
        · rename_i hne
          refine hothers key ?_
          rw [List.map_cons, List.mem_cons, not_or]
          exact ⟨Ne.symm hne, hkey⟩

/-- Changes of different fields come to the same document in every order. -/
theorem applyEach_perm {cs cs' : List Change} (hd : d.Sorted)
    (nodup : (cs.map Change.field).Nodup) (hperm : cs'.Perm cs) :
    applyEach cs' d = .ok d' ↔ applyEach cs d = .ok d' := by
  have hfields : (cs'.map Change.field).Perm (cs.map Change.field) := hperm.map _
  rw [applyEach_eq_ok_iff hd nodup, applyEach_eq_ok_iff hd (hfields.nodup_iff.mpr nodup)]
  simp only [hperm.mem_iff, hfields.mem_iff]

/-- A modifier that names no field twice, against its changes made one after the other.  It
succeeds just if they do in every order, all orders come to its document, and the fields that it
does not name are as before.  If it fails, every order comes upon a change that fails. -/
theorem apply_in_any_order (modifiers d : Document) (hd : d.Sorted)
    (hobjects : ∀ p ∈ modifiers, ∃ fields, p.2 = .obj fields)
    (hnames : (fieldsNamed modifiers).Nodup) :
    ((∃ d', apply modifiers d = .ok d') ↔
      ∀ cs, cs.Perm (changes modifiers) → ∃ d', applyEach cs d = .ok d') ∧
    (∀ d', apply modifiers d = .ok d' →
      (∀ cs, cs.Perm (changes modifiers) → applyEach cs d = .ok d') ∧
      ∀ key, key ∉ fieldsNamed modifiers → d'.get? key = d.get? key) ∧
    ∀ cause, apply modifiers d = .error cause → ∀ cs, cs.Perm (changes modifiers) →
      ∃ before c after d₁ cause', cs = before ++ c :: after ∧
        applyEach before d = .ok d₁ ∧ apply c.modifier d₁ = .error cause' := by
  have hok : ∀ cs, cs.Perm (changes modifiers) → ∀ d',
      applyEach cs d = .ok d' ↔ apply modifiers d = .ok d' := by
    intro cs hperm d'
    rw [apply_eq_applyEach hobjects]
    exact applyEach_perm hd hnames hperm
  refine ⟨⟨fun ⟨d', h⟩ cs hperm => ⟨d', (hok cs hperm d').mpr h⟩, fun h => ?_⟩,
    fun d' h => ⟨fun cs hperm => (hok cs hperm d').mpr h, ?_⟩, fun cause h cs hperm => ?_⟩
  · obtain ⟨d', hlisted⟩ := h _ (List.Perm.refl _)
    exact ⟨d', (hok _ (List.Perm.refl _) d').mp hlisted⟩
  · rw [apply_eq_applyEach hobjects] at h
    exact ((applyEach_eq_ok_iff hd hnames).mp h).2.2
  · have hnone : ¬∃ d', applyEach cs d = .ok d' := by
      rintro ⟨d', h'⟩
      rw [(hok cs hperm d').mp h'] at h
      exact absurd h (by simp)
    obtain ⟨cause', hfails⟩ := Except.exists_eq_error_iff.mpr hnone
    obtain ⟨before, c, after, d₁, hcs, hbefore, hc⟩ := Except.exists_of_foldlM_eq_error hfails
    exact ⟨before, c, after, d₁, cause', hcs, hbefore, hc⟩

/-- Five operators, one of which pulls from a field that is missing, against their changes in the
reverse order. -/
theorem apply_in_any_order_reversed :
    let d : Document :=
      [("_id", .str "p1"), ("likes", .ofNat 1), ("old", .bool true), ("tags", .arr [.str "a"])]
    let modifiers : Document :=
      [("$inc", .obj [("likes", .ofNat 2)]), ("$pull", .obj [("links", .str "l")]),
        ("$push", .obj [("tags", .str "b")]), ("$set", .obj [("name", .str "Ada")]),
        ("$unset", .obj [("old", .null)])]
    let d' : Document :=
      [("_id", .str "p1"), ("likes", .ofNat 3), ("name", .str "Ada"),
        ("tags", .arr [.str "a", .str "b"])]
    d.Sorted ∧ (∀ p ∈ modifiers, ∃ fields, p.2 = .obj fields) ∧ (fieldsNamed modifiers).Nodup ∧
      apply modifiers d = .ok d' ∧ applyEach (changes modifiers).reverse d = .ok d' := by
  intro d modifiers d'
  have hd : d.Sorted := Entries.sorted_ofList d
  have hobjects : ∀ p ∈ modifiers, ∃ fields, p.2 = .obj fields := by simp [modifiers]
  have hnames : (fieldsNamed modifiers).Nodup := by decide
  have happly : apply modifiers d = .ok d' := rfl
  obtain ⟨-, hany, -⟩ := apply_in_any_order modifiers d hd hobjects hnames
  exact ⟨hd, hobjects, hnames, happly, (hany d' happly).1 _ (List.reverse_perm _)⟩

end Modifier

end RecordStore
