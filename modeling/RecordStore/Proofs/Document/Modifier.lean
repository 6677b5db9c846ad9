/-
What a modifier leaves alone.

One operator changes one field, and no operator is applied to the identifier, so a
document keeps its identifier through every modifier that succeeds.

* `Modifier.exists_foldl_addToSet` — what is added to an array that must not repeat items;
* `Modifier.get?_applyOperator` — an operator changes no other field;
* `Modifier.exists_foldlM_applyField` — an operator on several fields, field by field;
* `Modifier.get?_apply_idKey` — a modifier keeps the identifier.
-/
import RecordStore.Document.Modifier
import RecordStore.Proofs.Entries
import RecordStore.Proofs.Except
import RecordStore.Proofs.Json.Equality

namespace RecordStore

namespace Modifier

variable {d d' : Document}

/-- A modifier with one operator applies it to its fields. -/
theorem apply_singleton (operator : String) (fields d : Document) :
    apply [(operator, .obj fields)] d = fields.foldlM (applyField operator) d := by
  show applyEntry d (operator, .obj fields) >>= pure = _
  rw [bind_pure]
  rfl

/-! ### Items added to an array -/

/-- What is added to items that must not be repeated. -/
theorem exists_foldl_addToSet (items given : List Json) :
    ∃ new, given.foldl addToSet items = items ++ new ∧ new.Sublist given ∧
      (∀ v ∈ new, items.contains v = false) ∧ Json.Distinct new ∧
      ∀ v ∈ given, (items ++ new).contains v = true := by
  induction given generalizing items with
  | nil => exact ⟨[], (List.append_nil items).symm, List.Sublist.refl _, by simp,
      List.Pairwise.nil, by simp⟩
  | cons v rest ih =>
    rw [List.foldl_cons, addToSet]
    split
    · rename_i hv
      obtain ⟨new, hfold, hsub, habsent, hdistinct, hall⟩ := ih items
      refine ⟨new, hfold, hsub.cons v, habsent, hdistinct, List.forall_mem_cons.mpr ⟨?_, hall⟩⟩
      rw [List.contains_append, hv, Bool.true_or]
    · rename_i hv
      rw [Bool.not_eq_true] at hv
      obtain ⟨new, hfold, hsub, habsent, hdistinct, hall⟩ := ih (items ++ [v])
      -- No later item is there already, and none equals `v`.
      have hnew : ∀ w ∈ new, items.contains w = false ∧ (v == w) = false := by
        intro w hw
        have hlater := habsent w hw
        rw [List.contains_append, Bool.or_eq_false_iff] at hlater
        refine ⟨hlater.1, ?_⟩
        rw [Json.beq_comm]
        simpa using hlater.2
      have happend : items ++ [v] ++ new = items ++ v :: new := by simp
      rw [happend] at hfold hall
      refine ⟨v :: new, hfold, hsub.cons_cons v,
        List.forall_mem_cons.mpr ⟨hv, fun w hw => (hnew w hw).1⟩,
        List.pairwise_cons.mpr ⟨fun w hw => (hnew w hw).2, hdistinct⟩,
        List.forall_mem_cons.mpr ⟨?_, hall⟩⟩
      rw [List.contains_append]
      simp

/-- Items that are all there already are not added. -/
theorem foldl_addToSet_of_contains {items given : List Json}
    (h : ∀ v ∈ given, items.contains v = true) : given.foldl addToSet items = items := by
  induction given with
  | nil => rfl
  | cons v rest ih =>
    obtain ⟨hv, hrest⟩ := List.forall_mem_cons.mp h
    rw [List.foldl_cons, addToSet, if_pos hv]
    exact ih hrest

theorem mem_foldl_addToSet {items added : List Json} {item : Json}
    (h : item ∈ added.foldl addToSet items) : item ∈ items ∨ item ∈ added := by
  obtain ⟨new, hfold, hsub, -⟩ := exists_foldl_addToSet items added
  rw [hfold] at h
  exact (List.mem_append.mp h).imp_right (hsub.subset ·)

/-! ### One operator on one field -/

/-- An operator on a field that succeeds either writes the field, takes it out or
leaves the document as it is. -/
theorem applyOperator_cases {operator field : String} {operand : Json}
    (h : applyOperator operator field operand d = .ok d') :
    (∃ v, d' = d.insert field v) ∨ d' = d.erase field ∨ d' = d := by
  unfold applyOperator at h
  split at h
  · exact Or.inl ⟨_, (Except.ok.inj h).symm⟩
  · exact Or.inr (Or.inl (Except.ok.inj h).symm)
  · split at h
    · exact Or.inl ⟨_, (Except.ok.inj h).symm⟩
    · exact Or.inl ⟨_, (Except.ok.inj h).symm⟩
    · exact absurd h (by simp)
  · obtain ⟨items, -, hitems⟩ := Except.bind_eq_ok_iff.mp h
    exact Or.inl ⟨_, (Except.ok.inj hitems).symm⟩
  · obtain ⟨items, -, hitems⟩ := Except.bind_eq_ok_iff.mp h
    exact Or.inl ⟨_, (Except.ok.inj hitems).symm⟩
  · split at h
    · exact Or.inr (Or.inr (Except.ok.inj h).symm)
    · exact Or.inl ⟨_, (Except.ok.inj h).symm⟩
    · exact absurd h (by simp)
  · exact absurd h (by simp)

theorem get?_applyOperator {operator field : String} {operand : Json}
    (h : applyOperator operator field operand d = .ok d') {key : String} (hne : field ≠ key) :
    d'.get? key = d.get? key := by
  rcases applyOperator_cases h with ⟨v, rfl⟩ | rfl | rfl
  · rw [Entries.get?_insert, if_neg hne]
  · rw [Entries.get?_erase, if_neg hne]
  · rfl

/-- An operator on several fields, none of them the identifier, that succeeds on each of them
whatever stands under the others: each of its fields is changed on its own, and no other one
is changed. -/
theorem exists_foldlM_applyField (operator : String) (after : Json → Option Json → Option Json)
    {fields : Document} (nodup : fields.keys.Nodup) (hid : Document.idKey ∉ fields.keys)
    {d : Document}
    (hstep : ∀ field operand, (field, operand) ∈ fields → ∀ e : Document,
      e.get? field = d.get? field → ∃ e', applyOperator operator field operand e = .ok e' ∧
        e'.get? field = after operand (d.get? field)) :
    ∃ d', fields.foldlM (applyField operator) d = .ok d' ∧ ∀ key, d'.get? key =
      match fields.get? key with
      | some operand => after operand (d.get? key)
      | none => d.get? key := by
  induction fields generalizing d with
  | nil => exact ⟨d, rfl, fun _ => rfl⟩
  | cons entry rest ih =>
    obtain ⟨field, operand⟩ := entry
    rw [Entries.keys, List.map_cons, ← Entries.keys] at nodup hid
    obtain ⟨hnew, nodup'⟩ := List.nodup_cons.mp nodup
    rw [List.mem_cons, not_or] at hid
    obtain ⟨e, hfirst, he⟩ := hstep field operand List.mem_cons_self d rfl
    -- The other fields are as they were before the first one.
    have hother : ∀ {key}, field ≠ key → e.get? key = d.get? key :=
      fun hne => get?_applyOperator hfirst hne
    obtain ⟨d', hrest, hd'⟩ := ih nodup' hid.2 (d := e) fun field' operand' hmem e' he' => by
      have hne : field ≠ field' := by
        rintro rfl
        exact hnew (List.mem_map.mpr ⟨_, hmem, rfl⟩)
      rw [hother hne] at he' ⊢
      exact hstep field' operand' (List.mem_cons_of_mem _ hmem) e' he'
    refine ⟨d', ?_, fun key => ?_⟩
    · rw [List.foldlM_cons, applyField, if_neg (Ne.symm hid.1), hfirst]
      exact hrest
    · rw [hd', Entries.get?_cons]
      by_cases hkey : field = key
      · subst hkey
        rw [Entries.get?_eq_none_iff.mpr hnew, if_pos rfl]
        exact he
      · rw [if_neg hkey, hother hkey]

theorem get?_applyField_idKey {operator : String} {entry : String × Json}
    (h : applyField operator d entry = .ok d') :
    d'.get? Document.idKey = d.get? Document.idKey := by
  rw [applyField] at h
  split at h
  · exact absurd h (by simp)
  · rename_i hne
    exact get?_applyOperator h hne

theorem get?_applyEntry_idKey {entry : String × Json} (h : applyEntry d entry = .ok d') :
    d'.get? Document.idKey = d.get? Document.idKey := by
  unfold applyEntry at h
  split at h
  · exact Except.foldlM_keeps (fun d => d.get? Document.idKey)
      (fun _ _ _ hstep => get?_applyField_idKey hstep) h
  · exact absurd h (by simp)

/-- A modifier keeps the identifier of the document. -/
theorem get?_apply_idKey {modifiers : Document} (h : apply modifiers d = .ok d') :
    d'.get? Document.idKey = d.get? Document.idKey :=
  Except.foldlM_keeps (fun d => d.get? Document.idKey)
    (fun _ _ _ hstep => get?_applyEntry_idKey hstep) h

/-- The document after a modifier, which is the same one if the modifier fails. -/
def attempt (modifiers d : Document) : Document :=
  match apply modifiers d with
  | .ok d' => d'
  | .error _ => d

theorem get?_attempt_idKey (modifiers d : Document) :
    (attempt modifiers d).get? Document.idKey = d.get? Document.idKey := by
  rw [attempt]
  split
  · rename_i h
    exact get?_apply_idKey h
  · rfl

end Modifier

end RecordStore
