/-
Equality of values.

Every value equals itself, equality works in both directions and carries over, and equal values
are nested to the same depth.  The last is what tells a value from the parts of which it is made.

* `Json.beq_self`, `Json.beq_comm`, `Json.same_trans` — equality is reflexive, symmetric and
  transitive;
* `Json.depth`, `Json.depth_eq_of_beq` — equal values have the same depth;
* `Json.Distinct` — no two items are equal.
-/
import RecordStore.Json.Basic

namespace RecordStore

theorem Number.same_comm (m n : Number) : m.same n = n.same m := by
  cases m <;> cases n <;> simp [same, Double.same, Bool.beq_comm]

theorem Number.same_trans {l m n : Number} (h : l.same m = true) (h' : m.same n = true) :
    l.same n = true := by
  cases l <;> cases m <;> cases n <;> simp_all [same, Double.same]

namespace Json

mutual

theorem same_self : ∀ v : Json, same v v = true
  | .null => rfl
  | .bool b => by simp [same]
  | .num (.int n _) => by simp [same, Number.same]
  | .num (.float x) => by simp [same, Number.same, Double.same]
  | .str s => by simp [same]
  | .arr items => by rw [same, sameItems_self items]
  | .obj entries => by rw [same, sameEntries_self entries]

theorem sameItems_self : ∀ items : List Json, sameItems items items = true
  | [] => rfl
  | v :: rest => by rw [sameItems, same_self v, sameItems_self rest, Bool.and_true]

theorem sameEntries_self : ∀ entries : List (String × Json), sameEntries entries entries = true
  | [] => rfl
  | (key, v) :: rest => by simp [sameEntries, same_self v, sameEntries_self rest]

end

theorem beq_self (v : Json) : (v == v) = true := same_self v

mutual

theorem same_comm : ∀ v w : Json, same v w = same w v
  | .null, w => by cases w <;> rfl
  | .bool a, w => by cases w <;> simp [same, Bool.beq_comm]
  | .num m, w => by cases w <;> simp [same, Number.same_comm m]
  | .str s, w => by cases w <;> simp [same, Bool.beq_comm]
  | .arr xs, w => by
    cases w with
    | arr ys => rw [same, same, sameItems_comm xs ys]
    | _ => rfl
  | .obj ds, w => by
    cases w with
    | obj es => rw [same, same, sameEntries_comm ds es]
    | _ => rfl

theorem sameItems_comm : ∀ xs ys : List Json, sameItems xs ys = sameItems ys xs
  | [], ys => by cases ys <;> rfl
  | x :: xs, [] => rfl
  | x :: xs, y :: ys => by rw [sameItems, sameItems, same_comm x y, sameItems_comm xs ys]

theorem sameEntries_comm : ∀ ds es : List (String × Json), sameEntries ds es = sameEntries es ds
  | [], es => by cases es <;> rfl
  | d :: ds, [] => rfl
  | (j, v) :: ds, (k, w) :: es => by
    rw [sameEntries, sameEntries, same_comm v w, sameEntries_comm ds es, Bool.beq_comm (a := j)]

end

theorem beq_comm (v w : Json) : (v == w) = (w == v) := same_comm v w

mutual

theorem same_trans : ∀ u v w : Json, same u v = true → same v w = true → same u w = true
  | .null, v, w, h, h' => by
    cases v with
    | null => exact h'
    | _ => exact absurd h Bool.false_ne_true
  | .bool a, v, w, h, h' => by
    cases v with
    | bool b =>
      obtain rfl : a = b := eq_of_beq h
      exact h'
    | _ => exact absurd h Bool.false_ne_true
  | .num l, v, w, h, h' => by
    cases v with
    | num m =>
      cases w with
      | num n => exact Number.same_trans h h'
      | _ => exact absurd h' Bool.false_ne_true
    | _ => exact absurd h Bool.false_ne_true
  | .str s, v, w, h, h' => by
    cases v with
    | str t =>
      obtain rfl : s = t := eq_of_beq h
      exact h'
    | _ => exact absurd h Bool.false_ne_true
  | .arr xs, v, w, h, h' => by
    cases v with
    | arr ys =>
      cases w with
      | arr zs => exact sameItems_trans xs ys zs h h'
      | _ => exact absurd h' Bool.false_ne_true
    | _ => exact absurd h Bool.false_ne_true
  | .obj ds, v, w, h, h' => by
    cases v with
    | obj es =>
      cases w with
      | obj fs => exact sameEntries_trans ds es fs h h'
      | _ => exact absurd h' Bool.false_ne_true
    | _ => exact absurd h Bool.false_ne_true

theorem sameItems_trans : ∀ xs ys zs : List Json,
    sameItems xs ys = true → sameItems ys zs = true → sameItems xs zs = true
  | [], [], _, _, h' => h'
  | x :: xs, y :: ys, [], _, h' => absurd h' Bool.false_ne_true
  | x :: xs, y :: ys, z :: zs, h, h' => by
    rw [sameItems, Bool.and_eq_true] at h h' ⊢
    exact ⟨same_trans x y z h.1 h'.1, sameItems_trans xs ys zs h.2 h'.2⟩

theorem sameEntries_trans : ∀ ds es fs : List (String × Json),
    sameEntries ds es = true → sameEntries es fs = true → sameEntries ds fs = true
  | [], [], _, _, h' => h'
  | d :: ds, e :: es, [], _, h' => absurd h' Bool.false_ne_true
  | (i, u) :: ds, (j, v) :: es, (k, w) :: fs, h, h' => by
    rw [sameEntries, Bool.and_eq_true, Bool.and_eq_true] at h h' ⊢
    obtain ⟨⟨hkey, hvalue⟩, hrest⟩ := h
    obtain rfl : i = j := eq_of_beq hkey
    exact ⟨⟨h'.1.1, same_trans u v w hvalue h'.1.2⟩, sameEntries_trans ds es fs hrest h'.2⟩

end

instance : EquivBEq Json where
  rfl := fun {v} => beq_self v
  symm := fun {v w} h => (beq_comm v w).symm.trans h
  trans := fun {u v w} h h' => same_trans u v w h h'

/-! ### Depth -/

mutual

/-- How deep arrays and objects are nested in a value. -/
def depth : Json → Nat
  | .arr items => depthItems items + 1
  | .obj entries => depthEntries entries + 1
  | _ => 0

/-- The greatest depth of the items. -/
def depthItems : List Json → Nat
  | [] => 0
  | v :: rest => max (depth v) (depthItems rest)

/-- The greatest depth of the values of the entries. -/
def depthEntries : List (String × Json) → Nat
  | [] => 0
  | (_, v) :: rest => max (depth v) (depthEntries rest)

end

theorem depth_le_depthItems {v : Json} {items : List Json} (h : v ∈ items) :
    v.depth ≤ depthItems items := by
  induction items with
  | nil => exact absurd h List.not_mem_nil
  | cons w rest ih =>
    rw [depthItems]
    rcases List.mem_cons.mp h with rfl | hrest
    · exact Nat.le_max_left _ _
    · exact Nat.le_trans (ih hrest) (Nat.le_max_right _ _)

theorem depth_le_depthEntries {key : String} {v : Json} {entries : List (String × Json)}
    (h : (key, v) ∈ entries) : v.depth ≤ depthEntries entries := by
  induction entries with
  | nil => exact absurd h List.not_mem_nil
  | cons entry rest ih =>
    obtain ⟨k, w⟩ := entry
    rw [depthEntries]
    rcases List.mem_cons.mp h with heq | hrest
    · obtain ⟨-, rfl⟩ := Prod.mk.inj heq
      exact Nat.le_max_left _ _
    · exact Nat.le_trans (ih hrest) (Nat.le_max_right _ _)

mutual

theorem depth_eq_of_same : ∀ v w : Json, same v w = true → depth v = depth w
  | .arr xs, w, h => by
    cases w with
    | arr ys => rw [depth, depth, depthItems_eq_of_same xs ys h]
    | _ => exact absurd h Bool.false_ne_true
  | .obj ds, w, h => by
    cases w with
    | obj es => rw [depth, depth, depthEntries_eq_of_same ds es h]
    | _ => exact absurd h Bool.false_ne_true
  | .null, w, h => by cases w <;> simp_all [same, depth]
  | .bool _, w, h => by cases w <;> simp_all [same, depth]
  | .num _, w, h => by cases w <;> simp_all [same, depth]
  | .str _, w, h => by cases w <;> simp_all [same, depth]

theorem depthItems_eq_of_same : ∀ xs ys : List Json, sameItems xs ys = true →
    depthItems xs = depthItems ys
  | [], [], _ => rfl
  | x :: xs, y :: ys, h => by
    rw [sameItems, Bool.and_eq_true] at h
    rw [depthItems, depthItems, depth_eq_of_same x y h.1, depthItems_eq_of_same xs ys h.2]

theorem depthEntries_eq_of_same : ∀ ds es : List (String × Json), sameEntries ds es = true →
    depthEntries ds = depthEntries es
  | [], [], _ => rfl
  | (j, v) :: ds, (k, w) :: es, h => by
    rw [sameEntries, Bool.and_eq_true, Bool.and_eq_true] at h
    rw [depthEntries, depthEntries, depth_eq_of_same v w h.1.2, depthEntries_eq_of_same ds es h.2]

end

theorem depth_eq_of_beq {v w : Json} (h : (v == w) = true) : v.depth = w.depth :=
  depth_eq_of_same v w h

/-! ### Items without repetition -/

/-- No two of the items are equal. -/
def Distinct (items : List Json) : Prop := items.Pairwise fun v w => (v == w) = false

theorem Distinct.count_le_one {items : List Json} (h : Distinct items) (v : Json) :
    items.count v ≤ 1 := by
  induction items with
  | nil => exact Nat.zero_le 1
  | cons w rest ih =>
    obtain ⟨hfirst, hrest⟩ := List.pairwise_cons.mp h
    rw [List.count_cons]
    split
    · rename_i hw
      -- What equals `v` would equal `w`.
      have hnone : rest.count v = 0 := by
        refine List.countP_eq_zero.mpr fun u hu huv => ?_
        have hwu : (w == u) = true := BEq.trans hw (BEq.symm huv)
        exact absurd hwu (by simp [hfirst u hu])
      omega
    · exact ih hrest

theorem Distinct.append {items new : List Json} (hitems : Distinct items) (hnew : Distinct new)
    (habsent : ∀ v ∈ new, items.contains v = false) : Distinct (items ++ new) := by
  refine List.pairwise_append.mpr ⟨hitems, hnew, fun v hv w hw => ?_⟩
  rw [← Bool.not_eq_true]
  intro heq
  have hcontains : items.contains w = true :=
    List.contains_iff_exists_mem_beq.mpr ⟨v, hv, BEq.symm heq⟩
  rw [habsent w hw] at hcontains
  exact Bool.noConfusion hcontains

end Json

end RecordStore
