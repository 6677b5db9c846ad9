/-
The order of values that documents are sorted by.

Whole numbers are compared exactly with each other, and with doubles through the nearest
double.  A greater whole number is never rounded to a lesser double, so the two ways of
comparing agree, but for one thing: two whole numbers may be rounded to the same double, and
that double ties with both of them.  Standing between them it makes the greater one not
greater than the lesser.  Kinds are compared before values, and in all else the order is
transitive.

* `Number.Straddle` — a double to which two whole numbers are rounded, the greater before it;
* `Number.isLE_sortCompare_iff`, `Json.isLE_sortCompare_iff` — three values in order: the
  third is not before the first just if there is no such double;
* `Json.straddle_iff` — such doubles are all that keeps the order from being transitive;
* `Json.sortCompare_swap` — the order of two values the other way round.
-/
import Mathlib.Order.Compare
import RecordStore.Document.Sort
import RecordStore.Proofs.Json.Rounding

namespace RecordStore

/-! ### Numbers -/

namespace Number

/-- The place of the nearest double. -/
def rank (n : Number) : Int := n.toDouble.rank

theorem rank_int (n : Int) (hn : InRange n) : (int n hn).rank = (Double.ofInt n).rank := rfl

theorem rank_float (x : Double) : (float x).rank = x.rank := rfl

theorem compare_toNat {m n : Int} (hm : 0 ≤ m) (hn : 0 ≤ n) :
    Ord.compare m.toNat n.toNat = Ord.compare m n := by
  rcases lt_trichotomy m n with hlt | rfl | hgt
  · rw [compare_lt_iff_lt.mpr hlt, compare_lt_iff_lt]
    omega
  · rw [compare_eq_iff_eq.mpr rfl, compare_eq_iff_eq.mpr rfl]
  · rw [compare_gt_iff_gt.mpr hgt, compare_gt_iff_gt]
    omega

section Compare

variable {m n : Int} (hm : InRange m) (hn : InRange n)

/-- Whole numbers are compared exactly: as signed numbers, as unsigned ones, or by their
doubles if one is negative and the other too large for a signed number. -/
theorem sortCompare_int : (int m hm).sortCompare (int n hn) = Ord.compare m n := by
  by_cases hm' : m < 2 ^ 63
  · by_cases hn' : n < 2 ^ 63
    · simp only [sortCompare, signed?, if_pos hm', if_pos hn']
    · by_cases hnonneg : 0 ≤ m
      · have hn'' : 0 ≤ n := by omega
        simp only [sortCompare, signed?, unsigned?, if_pos hm', if_neg hn', if_pos hnonneg,
          if_pos hn'', compare_toNat hnonneg hn'']
      · have hrank : (Double.ofInt m).rank < (Double.ofInt n).rank :=
          (Double.rank_ofInt_of_neg (by omega)).trans_le (Double.rank_ofInt_of_nonneg (by omega))
        simp only [sortCompare, signed?, unsigned?, if_pos hm', if_neg hn', if_neg hnonneg,
          toDouble, Double.totalCompare_eq]
        rw [compare_lt_iff_lt.mpr hrank, compare_lt_iff_lt.mpr (by omega)]
  · by_cases hnonneg : 0 ≤ n
    · have hm'' : 0 ≤ m := by omega
      simp only [sortCompare, signed?, unsigned?, if_neg hm', if_pos hnonneg, if_pos hm'',
        compare_toNat hm'' hnonneg]
    · have hrank : (Double.ofInt n).rank < (Double.ofInt m).rank :=
        (Double.rank_ofInt_of_neg (by omega)).trans_le (Double.rank_ofInt_of_nonneg (by omega))
      have hm'' : 0 ≤ m := by omega
      simp only [sortCompare, signed?, unsigned?, if_neg hm', if_pos hm'', if_neg hnonneg,
        toDouble, Double.totalCompare_eq]
      rw [compare_gt_iff_gt.mpr hrank, compare_gt_iff_gt.mpr (by omega)]

end Compare

theorem sortCompare_float_left (x : Double) (n : Number) :
    (float x).sortCompare n = Ord.compare x.rank n.rank := rfl

theorem sortCompare_float_right (n : Number) (x : Double) :
    n.sortCompare (float x) = Ord.compare n.rank x.rank := by
  cases n with
  | int n hn => cases hn' : (int n hn).signed? <;> cases hn'' : (int n hn).unsigned? <;>
      simp only [sortCompare, hn', hn''] <;> rfl
  | float y => rfl

theorem sortCompare_swap (m n : Number) : n.sortCompare m = (m.sortCompare n).swap := by
  cases m with
  | int m hm =>
    cases n with
    | int n hn => rw [sortCompare_int, sortCompare_int, Std.OrientedOrd.eq_swap]
    | float y => rw [sortCompare_float_left, sortCompare_float_right, Std.OrientedOrd.eq_swap]
  | float x => rw [sortCompare_float_left, sortCompare_float_right, Std.OrientedOrd.eq_swap]

/-- Of two numbers in order neither has the lesser double. -/
theorem rank_le_of_isLE {m n : Number} (h : (m.sortCompare n).isLE = true) : m.rank ≤ n.rank := by
  cases m with
  | int m hm =>
    cases n with
    | int n hn =>
      rw [sortCompare_int, Std.isLE_compare] at h
      exact Double.rank_ofInt_mono h
    | float y =>
      rw [sortCompare_float_right, Std.isLE_compare] at h
      exact h
  | float x =>
    rw [sortCompare_float_left, Std.isLE_compare] at h
    exact h

/-- Two whole numbers are rounded to the double that stands between them, and the greater of
the two stands before it. -/
def Straddle : Number → Number → Number → Prop
  | .int k _, .float x, .int n _ => n < k ∧ Double.ofInt k = x ∧ Double.ofInt n = x
  | _, _, _ => False

instance : ∀ k m n : Number, Decidable (Straddle k m n)
  | .int _ _, .float _, .int _ _ => inferInstanceAs (Decidable (_ ∧ _))
  | .float _, _, _ => .isFalse id
  | .int _ _, .int _ _, _ => .isFalse id
  | .int _ _, .float _, .float _ => .isFalse id

/-- Numbers in order, the third behind the second and the second behind the first: then the
third is behind the first, unless the second is a double to which both of them are rounded. -/
theorem isLE_sortCompare_iff {k m n : Number} (hkm : (k.sortCompare m).isLE = true)
    (hmn : (m.sortCompare n).isLE = true) :
    (k.sortCompare n).isLE = true ↔ ¬Straddle k m n := by
  have hle : k.rank ≤ n.rank := (rank_le_of_isLE hkm).trans (rank_le_of_isLE hmn)
  cases k with
  | float x =>
    rw [sortCompare_float_left, Std.isLE_compare]
    exact iff_of_true hle id
  | int k hk =>
    cases n with
    | float z =>
      rw [sortCompare_float_right, Std.isLE_compare]
      exact iff_of_true hle (by cases m <;> exact id)
    | int n hn =>
      cases m with
      | int m hm =>
        rw [sortCompare_int, Std.isLE_compare] at hkm hmn ⊢
        exact iff_of_true (hkm.trans hmn) id
      | float y =>
        rw [sortCompare_int, Std.isLE_compare, Straddle]
        constructor
        · rintro hkn ⟨hlt, -, -⟩
          omega
        · intro hnot
          by_contra hlt
          rw [Int.not_le] at hlt
          -- The ranks of the three are in a row whose ends are the other way round.
          have hky := rank_le_of_isLE hkm
          have hyn := rank_le_of_isLE hmn
          have hnk := Double.rank_ofInt_mono hlt.le
          rw [rank_int, rank_float] at hky hyn
          have hleft : (Double.ofInt k).rank = y.rank := le_antisymm hky (hyn.trans hnk)
          have hright : (Double.ofInt n).rank = y.rank := le_antisymm (hnk.trans hky) hyn
          exact hnot ⟨hlt, Double.rank_injective hleft, Double.rank_injective hright⟩

/-- The double ties with both of the whole numbers. -/
theorem isLE_of_straddle {k m n : Number} (h : Straddle k m n) :
    (k.sortCompare m).isLE = true ∧ (m.sortCompare n).isLE = true := by
  cases k with
  | float x => exact h.elim
  | int k hk =>
    cases m with
    | int m hm => exact h.elim
    | float y =>
      cases n with
      | float z => exact h.elim
      | int n hn =>
        have hky : Double.ofInt k = y := h.2.1
        have hny : Double.ofInt n = y := h.2.2
        rw [sortCompare_float_right, sortCompare_float_left, rank_int, rank_int, hky, hny,
          Std.isLE_compare]
        exact ⟨le_rfl, le_rfl⟩

end Number

/-! ### Values -/

namespace Json

/-- What decides between two values of one kind. -/
def compareAlike : Json → Json → Ordering
  | .bool a, .bool b => Ord.compare a b
  | .num m, .num n => m.sortCompare n
  | .str s, .str t => Ord.compare s t
  | _, _ => .eq

theorem sortCompare_some (v w : Json) :
    sortCompare (some v) (some w) =
      (Ord.compare v.kindRank w.kindRank).then (compareAlike v w) := by
  cases v <;> cases w <;> rfl

theorem compareAlike_swap (v w : Json) : compareAlike w v = (compareAlike v w).swap := by
  cases v with
  | bool a =>
    cases w with
    | bool b => exact Std.OrientedOrd.eq_swap
    | _ => rfl
  | num m =>
    cases w with
    | num n => exact Number.sortCompare_swap m n
    | _ => rfl
  | str s =>
    cases w with
    | str t => exact Std.OrientedOrd.eq_swap
    | _ => rfl
  | _ => cases w <;> rfl

/-- The order of two values the other way round. -/
theorem sortCompare_swap (v w : Option Json) : sortCompare w v = (sortCompare v w).swap := by
  cases v with
  | none => cases w <;> rfl
  | some v =>
    cases w with
    | none => rfl
    | some w =>
      rw [sortCompare_some, sortCompare_some, Ordering.swap_then, ← compareAlike_swap,
        ← Std.OrientedOrd.eq_swap]

/-- A value is not behind another if its kind comes first, or if it is of the same kind and
not behind the other in the order of that kind. -/
theorem isLE_sortCompare_some {v w : Json} :
    (sortCompare (some v) (some w)).isLE = true ↔
      v.kindRank < w.kindRank ∨ v.kindRank = w.kindRank ∧ (compareAlike v w).isLE = true := by
  rw [sortCompare_some, Ordering.isLE_then_iff_or, compare_lt_iff_lt, compare_eq_iff_eq]

/-- The double between two whole numbers that are rounded to it, among values. -/
def Straddle : Option Json → Option Json → Option Json → Prop
  | some (.num k), some (.num m), some (.num n) => k.Straddle m n
  | _, _, _ => False

instance (u v w : Option Json) : Decidable (Straddle u v w) := by
  unfold Straddle
  split <;> infer_instance

theorem kindRank_eq_of_straddle {u v w : Json} (h : Straddle (some u) (some v) (some w)) :
    u.kindRank = w.kindRank := by
  match u, v, w, h with
  | .num _, .num _, .num _, _ => rfl

/-- Values of one kind in order, as in `isLE_sortCompare_iff`. -/
theorem isLE_compareAlike_iff {u v w : Json} (huv : u.kindRank = v.kindRank)
    (hvw : v.kindRank = w.kindRank) (hle : (compareAlike u v).isLE = true)
    (hle' : (compareAlike v w).isLE = true) :
    (compareAlike u w).isLE = true ↔ ¬Straddle (some u) (some v) (some w) := by
  cases u with
  | num k =>
    cases v <;> cases huv
    cases w <;> cases hvw
    exact Number.isLE_sortCompare_iff hle hle'
  | bool a =>
    cases v <;> cases huv
    cases w <;> cases hvw
    exact iff_of_true (Std.TransOrd.isLE_trans hle hle') id
  | str s =>
    cases v <;> cases huv
    cases w <;> cases hvw
    exact iff_of_true (Std.TransOrd.isLE_trans hle hle') id
  | _ => exact iff_of_true rfl id

/-- Values in order, the second not before the first and the third not before the second:
then the third is not before the first, unless the second is a double to which both of the
others, whole numbers, are rounded. -/
theorem isLE_sortCompare_iff {u v w : Option Json} (huv : (sortCompare u v).isLE = true)
    (hvw : (sortCompare v w).isLE = true) :
    (sortCompare u w).isLE = true ↔ ¬Straddle u v w := by
  match u, v, w with
  | none, _, none => exact iff_of_true rfl id
  | none, _, some _ => exact iff_of_true rfl id
  | some _, none, _ => exact absurd huv Bool.false_ne_true
  | some _, some _, none => exact absurd hvw Bool.false_ne_true
  | some u, some v, some w =>
    rw [isLE_sortCompare_some] at huv hvw ⊢
    by_cases hkinds : u.kindRank = v.kindRank ∧ v.kindRank = w.kindRank
    · have hle := huv.resolve_left (by omega)
      have hle' := hvw.resolve_left (by omega)
      rw [← isLE_compareAlike_iff hkinds.1 hkinds.2 hle.2 hle'.2]
      constructor
      · exact fun h => (h.resolve_left (by omega)).2
      · exact fun h => Or.inr ⟨hkinds.1.trans hkinds.2, h⟩
    · have hlt : u.kindRank < w.kindRank := by omega
      refine iff_of_true (Or.inl hlt) fun hstraddle => ?_
      rw [kindRank_eq_of_straddle hstraddle] at hlt
      exact Nat.lt_irrefl _ hlt

theorem isLE_of_straddle {u v w : Option Json} (h : Straddle u v w) :
    (sortCompare u v).isLE = true ∧ (sortCompare v w).isLE = true := by
  match u, v, w, h with
  | some (.num _), some (.num _), some (.num _), h => exact Number.isLE_of_straddle h

/-- Three values stand in no transitive order just if the second is a double to which the
others are rounded. -/
theorem straddle_iff {u v w : Option Json} :
    Straddle u v w ↔ (sortCompare u v).isLE = true ∧ (sortCompare v w).isLE = true ∧
      ¬(sortCompare u w).isLE = true := by
  constructor
  · intro h
    obtain ⟨huv, hvw⟩ := isLE_of_straddle h
    exact ⟨huv, hvw, fun huw => (isLE_sortCompare_iff huv hvw).mp huw h⟩
  · rintro ⟨huv, hvw, huw⟩
    by_contra h
    exact huw ((isLE_sortCompare_iff huv hvw).mpr h)

end Json

end RecordStore
