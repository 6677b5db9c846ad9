/-
Series of steps that may fail.

A series comes to its end just if each of its steps does.

* `Except.bind_eq_ok_iff`, `Except.bind_eq_error_iff` — two steps, one after the other;
* `Except.map_eq_ok_iff`, `Except.map_eq_error_iff` — a step and a change of what it gives;
* `Except.mapM_eq_ok_iff`, `Except.exists_mapM_iff`, `Except.exists_of_mem_mapM`,
  `Except.mapM_ok_self` — one step for each item of a list;
* `Except.exists_mapM_of_forall` — such a series with other steps;
* `Except.mapM_eq_error_iff` — such a series fails as the first of its steps that does;
* `Except.foldlM_eq_error_iff` — steps that change a state and fail whatever it is;
* `Except.exists_of_foldlM_eq_error` — the step that fails;
* `Except.foldlM_preserves`, `Except.foldlM_keeps` — steps that change a state.
-/
import Mathlib.Data.List.Forall2

namespace RecordStore.Except

variable {ε α β γ : Type}

theorem bind_eq_ok_iff {x : Except ε α} {f : α → Except ε β} {r : β} :
    x >>= f = .ok r ↔ ∃ v, x = .ok v ∧ f v = .ok r := by
  cases x with
  | error e => exact iff_of_false (by simp [bind, Except.bind]) (by simp)
  | ok v => exact ⟨fun h => ⟨v, rfl, h⟩, fun ⟨w, hw, h⟩ => Except.ok.inj hw ▸ h⟩

theorem bind_eq_error_iff {x : Except ε α} {f : α → Except ε β} {e : ε} :
    x >>= f = .error e ↔ x = .error e ∨ ∃ v, x = .ok v ∧ f v = .error e := by
  cases x with
  | error e' => exact ⟨fun h => .inl (congrArg _ (Except.error.inj h)), fun h =>
      h.elim (fun h => congrArg _ (Except.error.inj h)) (by simp)⟩
  | ok v => exact ⟨fun h => .inr ⟨v, rfl, h⟩, fun h =>
      h.elim (by simp) fun ⟨w, hw, h⟩ => Except.ok.inj hw ▸ h⟩

theorem isOk_iff {x : Except ε α} : x.isOk = true ↔ ∃ v, x = .ok v := by
  cases x with
  | error e => exact iff_of_false Bool.false_ne_true (by simp)
  | ok v => exact iff_of_true rfl ⟨v, rfl⟩

theorem map_eq_ok_iff {x : Except ε α} {f : α → β} {r : β} :
    x.map f = .ok r ↔ ∃ v, x = .ok v ∧ f v = r := by
  cases x with
  | error e => exact iff_of_false (by simp [Except.map]) (by simp)
  | ok v => exact ⟨fun h => ⟨v, rfl, Except.ok.inj h⟩, fun ⟨w, hw, h⟩ => by
      rw [Except.ok.inj hw, ← h]
      rfl⟩

theorem map_eq_error_iff {x : Except ε α} {f : α → β} {e : ε} :
    x.map f = .error e ↔ x = .error e := by
  cases x with
  | error e' => exact ⟨fun h => congrArg _ (Except.error.inj h), fun h => by rw [h]; rfl⟩
  | ok v => exact iff_of_false (by simp [Except.map]) (by simp)

theorem exists_eq_error_iff {x : Except ε α} : (∃ e, x = .error e) ↔ ¬∃ v, x = .ok v := by
  cases x with
  | error e => exact iff_of_true ⟨e, rfl⟩ (by simp)
  | ok v => exact iff_of_false (by simp) fun h => h ⟨v, rfl⟩

theorem toOption_eq_some_iff {x : Except ε α} {v : α} : x.toOption = some v ↔ x = .ok v := by
  cases x with
  | error e => exact iff_of_false (by simp [Except.toOption]) (by simp)
  | ok w => exact ⟨fun h => congrArg _ (Option.some_inj.mp h), fun h => by rw [h]; rfl⟩

theorem mapError_eq_ok_iff {δ : Type} {x : Except ε α} {f : ε → δ} {r : α} :
    x.mapError f = .ok r ↔ x = .ok r := by
  cases x with
  | error e => exact iff_of_false (by simp [Except.mapError]) (by simp)
  | ok v => exact ⟨fun h => congrArg Except.ok (Except.ok.inj h), fun h => by rw [h]; rfl⟩

/-- Steps that give back what they are given give back the list. -/
theorem mapM_ok_self {f : α → Except ε α} {vs : List α} (h : ∀ v ∈ vs, f v = .ok v) :
    vs.mapM f = .ok vs := by
  induction vs with
  | nil => rfl
  | cons v rest ih =>
    rw [List.mapM_cons, h v List.mem_cons_self,
      ih fun w hw => h w (List.mem_cons_of_mem _ hw)]
    rfl

theorem exists_of_mem_mapM {f : α → Except ε β} {vs : List α} {ws : List β}
    (h : vs.mapM f = .ok ws) : ∀ w ∈ ws, ∃ v ∈ vs, f v = .ok w := by
  induction vs generalizing ws with
  | nil =>
    obtain rfl : [] = ws := Except.ok.inj h
    simp
  | cons v rest ih =>
    rw [List.mapM_cons, bind_eq_ok_iff] at h
    obtain ⟨w, hv, hmore⟩ := h
    obtain ⟨ws', hrest, hws⟩ := bind_eq_ok_iff.mp hmore
    obtain rfl : w :: ws' = ws := Except.ok.inj hws
    intro u hu
    rcases List.mem_cons.mp hu with rfl | hmem
    · exact ⟨v, List.mem_cons_self, hv⟩
    · obtain ⟨x, hx, hfx⟩ := ih hrest u hmem
      exact ⟨x, List.mem_cons_of_mem _ hx, hfx⟩

theorem exists_mapM_iff {f : α → Except ε β} {vs : List α} :
    (∃ ws, vs.mapM f = .ok ws) ↔ ∀ v ∈ vs, ∃ w, f v = .ok w := by
  induction vs with
  | nil => exact iff_of_true ⟨[], rfl⟩ (by simp)
  | cons v rest ih =>
    rw [List.forall_mem_cons, ← ih]
    constructor
    · rintro ⟨ws, hws⟩
      rw [List.mapM_cons, bind_eq_ok_iff] at hws
      obtain ⟨w, hv, hmore⟩ := hws
      obtain ⟨ws', hrest, -⟩ := bind_eq_ok_iff.mp hmore
      exact ⟨⟨w, hv⟩, ws', hrest⟩
    · rintro ⟨⟨w, hv⟩, ws, hrest⟩
      refine ⟨w :: ws, ?_⟩
      rw [List.mapM_cons, hv, hrest]
      rfl

/-- A series that comes to its end has one result for each item, in order. -/
theorem mapM_eq_ok_iff {f : α → Except ε β} {vs : List α} {ws : List β} :
    vs.mapM f = .ok ws ↔ List.Forall₂ (fun v w => f v = .ok w) vs ws := by
  induction vs generalizing ws with
  | nil =>
    rw [List.forall₂_nil_left_iff]
    exact ⟨fun h => (Except.ok.inj h).symm, fun h => h ▸ rfl⟩
  | cons v rest ih =>
    rw [List.mapM_cons, bind_eq_ok_iff, List.forall₂_cons_left_iff]
    constructor
    · rintro ⟨w, hv, hmore⟩
      obtain ⟨ws', hrest, hws⟩ := bind_eq_ok_iff.mp hmore
      exact ⟨w, ws', hv, ih.mp hrest, (Except.ok.inj hws).symm⟩
    · rintro ⟨w, ws', hv, hrest, rfl⟩
      refine ⟨w, hv, ?_⟩
      rw [ih.mpr hrest]
      rfl

/-- Where each step can be exchanged for another one that succeeds as well, so can the series. -/
theorem exists_mapM_of_forall {f g : α → Except ε β} {R : β → β → Prop} {vs : List α}
    {ws : List β} (hstep : ∀ v w, f v = .ok w → ∃ w', g v = .ok w' ∧ R w w')
    (h : vs.mapM f = .ok ws) : ∃ ws', vs.mapM g = .ok ws' ∧ List.Forall₂ R ws ws' := by
  simp only [mapM_eq_ok_iff] at h ⊢
  induction h with
  | nil => exact ⟨[], .nil, .nil⟩
  | cons hv _ ih =>
    obtain ⟨w', hw', hR⟩ := hstep _ _ hv
    obtain ⟨ws', hws', hRs⟩ := ih
    exact ⟨w' :: ws', .cons hw' hws', .cons hR hRs⟩

theorem mapM_eq_error_iff {f : α → Except ε β} {vs : List α} {e : ε} :
    vs.mapM f = .error e ↔ ∃ before v after, vs = before ++ v :: after ∧
      (∀ u ∈ before, ∃ w, f u = .ok w) ∧ f v = .error e := by
  induction vs with
  | nil => exact iff_of_false (by simp [pure, Except.pure]) (by simp)
  | cons u rest ih =>
    rw [List.mapM_cons, bind_eq_error_iff]
    constructor
    · rintro (hu | ⟨w, hu, hmore⟩)
      · exact ⟨[], u, rest, rfl, by simp, hu⟩
      · have hrest : rest.mapM f = .error e := by
          rcases bind_eq_error_iff.mp hmore with hrest | ⟨ws, -, hws⟩
          · exact hrest
          · exact absurd hws (by simp [pure, Except.pure])
        obtain ⟨before, v, after, rfl, hbefore, hv⟩ := ih.mp hrest
        exact ⟨u :: before, v, after, rfl, List.forall_mem_cons.mpr ⟨⟨w, hu⟩, hbefore⟩, hv⟩
    · rintro ⟨before, v, after, hvs, hbefore, hv⟩
      rcases List.cons_eq_append_iff.mp hvs with ⟨rfl, hrest⟩ | ⟨before', rfl, rfl⟩
      · obtain ⟨rfl, rfl⟩ := List.cons.inj hrest
        exact .inl hv
      · obtain ⟨⟨w, hu⟩, hbefore'⟩ := List.forall_mem_cons.mp hbefore
        have hrest := ih.mpr ⟨before', v, after, rfl, hbefore', hv⟩
        exact .inr ⟨w, hu, bind_eq_error_iff.mpr (.inl hrest)⟩

/-- Steps that may fail at their items, whatever the state is, fail as a look at the items in
their order does. -/
theorem foldlM_eq_error_iff {look : α → Except ε γ} {take : β → α → γ → β} {xs : List α} {s : β}
    {e : ε} :
    xs.foldlM (fun s x => do return take s x (← look x)) s = .error e ↔
      xs.mapM look = .error e := by
  induction xs generalizing s with
  | nil => exact iff_of_false (by simp [pure, Except.pure]) (by simp [pure, Except.pure])
  | cons x rest ih =>
    rw [List.foldlM_cons, List.mapM_cons]
    cases look x with
    | error e' =>
      show (Except.error e' : Except ε β) = .error e ↔ (Except.error e' : Except ε (List γ)) = _
      rw [Except.error.injEq, Except.error.injEq]
    | ok v => exact ih.trans (map_eq_error_iff (f := (v :: ·))).symm

/-- A series that fails comes to a step that does. -/
theorem exists_of_foldlM_eq_error {step : β → α → Except ε β} {xs : List α} {s : β} {e : ε}
    (h : xs.foldlM step s = .error e) : ∃ before x after s', xs = before ++ x :: after ∧
      before.foldlM step s = .ok s' ∧ step s' x = .error e := by
  induction xs generalizing s with
  | nil => exact absurd h (by simp [pure, Except.pure])
  | cons x rest ih =>
    rw [List.foldlM_cons, bind_eq_error_iff] at h
    rcases h with hfirst | ⟨middle, hfirst, hrest⟩
    · exact ⟨[], x, rest, s, rfl, rfl, hfirst⟩
    · obtain ⟨before, y, after, s', rfl, hbefore, hy⟩ := ih hrest
      refine ⟨x :: before, y, after, s', rfl, ?_, hy⟩
      rw [List.foldlM_cons, hfirst]
      exact hbefore
/-- What every step preserves holds at the end of a series that comes to its end. -/
theorem foldlM_preserves {P : β → Prop} {step : β → α → Except ε β} {xs : List α} {s s' : β}
    (h : ∀ x ∈ xs, ∀ s s', P s → step s x = .ok s' → P s') (hs : P s)
    (hrun : xs.foldlM step s = .ok s') : P s' := by
  induction xs generalizing s with
  | nil =>
    obtain rfl : s = s' := Except.ok.inj hrun
    exact hs
  | cons x rest ih =>
    rw [List.foldlM_cons, bind_eq_ok_iff] at hrun
    obtain ⟨middle, hfirst, hrest⟩ := hrun
    have hmiddle := h x List.mem_cons_self s middle hs hfirst
    exact ih (fun y hy => h y (List.mem_cons_of_mem _ hy)) hmiddle hrest

/-- What every step keeps, the series keeps, if it comes to its end. -/
theorem foldlM_keeps (view : β → γ) {step : β → α → Except ε β}
    (h : ∀ s x s', step s x = .ok s' → view s' = view s) {xs : List α} {s s' : β}
    (hrun : xs.foldlM step s = .ok s') : view s' = view s :=
  foldlM_preserves (P := fun t => view t = view s)
    (fun x _ t t' ht hstep => (h t x t' hstep).trans ht) rfl hrun

end RecordStore.Except
