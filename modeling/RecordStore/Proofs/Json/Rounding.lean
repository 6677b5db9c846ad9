/-
Rounding keeps the order of whole numbers.

The magnitude word of the nearest double is the exponent and, added to it, the number of steps
of that exponent, rounded.  Within one exponent the rounding of a quotient keeps the order.  From
one exponent to the next the number of steps, which is at most `2 ^ 53` after the rounding, starts
anew at `2 ^ 52`, and the exponent makes up for the difference.

* `Double.divHalfEven_mono`, `Double.nearestBits_mono` — rounding of quotients and of magnitudes;
* `Double.rank` — a whole number that orders doubles as `Double.totalCompare` does;
* `Double.rank_ofInt_mono` — a greater whole number is not rounded to a lesser double;
* `Double.exists_add_ofInt` — doubles of 64-bit numbers have a sum.
-/
import Mathlib.Data.Nat.Log
import RecordStore.Json.Double

namespace RecordStore

namespace Double

/-! ### Magnitudes -/

theorem div_le_divHalfEven (num den : Nat) : num / den ≤ divHalfEven num den := by
  simp only [divHalfEven]
  split
  · exact Nat.le_refl _
  · split <;> omega

theorem divHalfEven_le (num den : Nat) : divHalfEven num den ≤ num / den + 1 := by
  simp only [divHalfEven]
  split
  · omega
  · split <;> omega

theorem divHalfEven_mono {m n : Nat} (h : m ≤ n) (den : Nat) :
    divHalfEven m den ≤ divHalfEven n den := by
  rcases Nat.lt_or_eq_of_le (Nat.div_le_div_right (c := den) h) with hlt | heq
  · have hm := divHalfEven_le m den
    have hn := div_le_divHalfEven n den
    omega
  · -- Of two numbers with one quotient the greater has the greater remainder.
    have hm := Nat.div_add_mod m den
    have hn := Nat.div_add_mod n den
    rw [heq] at hm
    have hrest : m % den ≤ n % den := by omega
    simp only [divHalfEven, heq]
    split
    · split
      · exact Nat.le_refl _
      · split <;> omega
    · split
      · rw [if_neg (by omega), if_pos (by omega)]
      · rw [if_neg (by omega)]
        split <;> omega

theorem nearestBits_one (n : Nat) :
    nearestBits n 1 = (n.log2 - 52) * 2 ^ 52 + divHalfEven n (2 ^ (n.log2 - 52)) := by
  simp only [nearestBits, Nat.div_one, Nat.one_mul]

/-- The number of steps, rounded, is at most `2 ^ 53`. -/
theorem divHalfEven_le_of_log2 (n : Nat) : divHalfEven n (2 ^ (n.log2 - 52)) ≤ 2 ^ 53 := by
  have hlt : n < 2 ^ 53 * 2 ^ (n.log2 - 52) := by
    rw [← Nat.pow_add]
    exact Nat.lt_of_lt_of_le Nat.lt_log2_self (Nat.pow_le_pow_right (by omega) (by omega))
  have hquotient := Nat.div_lt_of_lt_mul (Nat.mul_comm _ _ ▸ hlt)
  have hrounded := divHalfEven_le n (2 ^ (n.log2 - 52))
  omega

/-- Above the least exponent it is at least `2 ^ 52`. -/
theorem le_divHalfEven_of_log2 {n : Nat} (h : 52 ≤ n.log2) :
    2 ^ 52 ≤ divHalfEven n (2 ^ (n.log2 - 52)) := by
  have hne : n ≠ 0 := by
    rintro rfl
    simp at h
  have hle : 2 ^ 52 * 2 ^ (n.log2 - 52) ≤ n := by
    rw [← Nat.pow_add, show 52 + (n.log2 - 52) = n.log2 by omega]
    exact Nat.log2_self_le hne
  have hquotient := (Nat.le_div_iff_mul_le (Nat.two_pow_pos (n.log2 - 52))).mpr hle
  exact hquotient.trans (div_le_divHalfEven _ _)

theorem nearestBits_mono {m n : Nat} (h : m ≤ n) : nearestBits m 1 ≤ nearestBits n 1 := by
  have hlog : m.log2 ≤ n.log2 := by
    rw [Nat.log2_eq_log_two, Nat.log2_eq_log_two]
    exact Nat.log_mono_right h
  rw [nearestBits_one, nearestBits_one]
  rcases Nat.lt_or_eq_of_le (Nat.sub_le_sub_right hlog 52) with hlt | heq
  · have hm := divHalfEven_le_of_log2 m
    have hn := le_divHalfEven_of_log2 (n := n) (by omega)
    omega
  · rw [heq]
    exact Nat.add_le_add_left (divHalfEven_mono h _) _

/-! ### Doubles -/

/-- The place of a double in the order that puts `-0` before `0`. -/
def rank (x : Double) : Int := if x.negative then -(x.bits : Int) - 1 else x.bits

theorem totalCompare_eq (x y : Double) : x.totalCompare y = Ord.compare x.rank y.rank := rfl

theorem rank_injective : Function.Injective rank := by
  intro x y h
  obtain ⟨negative, bits, _⟩ := x
  obtain ⟨negative', bits', _⟩ := y
  simp only [rank] at h
  cases negative <;> cases negative' <;> simp_all <;> omega

theorem rank_saturate (negative : Bool) (bits : Nat) :
    (saturate negative bits).rank =
      if negative then -((min bits (infinityBits - 1) : Nat) : Int) - 1
      else ((min bits (infinityBits - 1) : Nat) : Int) := by
  simp only [saturate]
  split
  · rw [rank, Nat.min_eq_left (by omega)]
  · rw [rank, Nat.min_eq_right (by omega)]

theorem rank_ofInt_of_neg {n : Int} (h : n < 0) : (ofInt n).rank < 0 := by
  rw [ofInt, rank_saturate, decide_eq_true h, if_pos rfl]
  omega

theorem rank_ofInt_of_nonneg {n : Int} (h : 0 ≤ n) : 0 ≤ (ofInt n).rank := by
  rw [ofInt, rank_saturate, decide_eq_false (by omega), if_neg Bool.false_ne_true]
  omega

/-- The double nearest to a greater whole number is not a lesser one. -/
theorem rank_ofInt_mono {m n : Int} (h : m ≤ n) : (ofInt m).rank ≤ (ofInt n).rank := by
  by_cases hn : n < 0
  · have hbits := nearestBits_mono (Nat.mul_le_mul_right (2 ^ 1074)
      (show n.natAbs ≤ m.natAbs by omega))
    rw [ofInt, ofInt, rank_saturate, rank_saturate, decide_eq_true hn,
      decide_eq_true (show m < 0 by omega), if_pos rfl, if_pos rfl]
    omega
  · by_cases hm : m < 0
    · exact le_trans (rank_ofInt_of_neg hm).le (rank_ofInt_of_nonneg (by omega))
    · have hbits := nearestBits_mono (Nat.mul_le_mul_right (2 ^ 1074)
        (show m.natAbs ≤ n.natAbs by omega))
      rw [ofInt, ofInt, rank_saturate, rank_saturate, decide_eq_false hn, decide_eq_false hm,
        if_neg Bool.false_ne_true, if_neg Bool.false_ne_true]
      omega

/-! ### Sums of doubles -/

/-- A greater magnitude word stands for a greater number. -/
theorem units_mono {m n : Nat} (h : m ≤ n) : units m ≤ units n := by
  have hexponent : m / 2 ^ 52 ≤ n / 2 ^ 52 := Nat.div_le_div_right h
  have hm := Nat.div_add_mod m (2 ^ 52)
  have hn := Nat.div_add_mod n (2 ^ 52)
  have hrest := Nat.mod_lt m (show 0 < 2 ^ 52 by decide)
  have hrest' := Nat.mod_lt n (show 0 < 2 ^ 52 by decide)
  simp only [units]
  by_cases hzero : n / 2 ^ 52 = 0
  · rw [if_pos hzero, if_pos (by omega)]
    exact h
  · rw [if_neg hzero]
    split
    · -- A subnormal number below a normal one.
      have hpos : 1 ≤ 2 ^ (n / 2 ^ 52 - 1) := Nat.one_le_two_pow
      calc m ≤ (n % 2 ^ 52 + 2 ^ 52) * 1 := by omega
        _ ≤ (n % 2 ^ 52 + 2 ^ 52) * 2 ^ (n / 2 ^ 52 - 1) := Nat.mul_le_mul_left _ hpos
    · rename_i hpos
      rcases Nat.lt_or_eq_of_le hexponent with hlt | heq
      · have hpow : 2 * 2 ^ (m / 2 ^ 52 - 1) ≤ 2 ^ (n / 2 ^ 52 - 1) := by
          rw [← Nat.pow_succ']
          exact Nat.pow_le_pow_right (by decide) (by omega)
        calc (m % 2 ^ 52 + 2 ^ 52) * 2 ^ (m / 2 ^ 52 - 1)
            ≤ (2 ^ 52 * 2) * 2 ^ (m / 2 ^ 52 - 1) := Nat.mul_le_mul_right _ (by omega)
          _ = 2 ^ 52 * (2 * 2 ^ (m / 2 ^ 52 - 1)) := Nat.mul_assoc _ _ _
          _ ≤ (n % 2 ^ 52 + 2 ^ 52) * 2 ^ (n / 2 ^ 52 - 1) :=
            Nat.mul_le_mul (by omega) hpow
      · rw [heq]
        exact Nat.mul_le_mul_right _ (by omega)

/-- The double of a 64-bit number is not greater than that of `2 ^ 64`. -/
theorem bits_ofInt_le {n : Int} (h : n.natAbs ≤ 2 ^ 64) :
    (ofInt n).bits ≤ nearestBits (2 ^ 64 * 2 ^ 1074) 1 := by
  have hmono := nearestBits_mono (Nat.mul_le_mul_right (2 ^ 1074) h)
  rw [ofInt, saturate]
  split
  · exact hmono
  · refine Nat.le_trans ?_ hmono
    show infinityBits - 1 ≤ _
    omega

theorem natAbs_value (x : Double) : x.value.natAbs = units x.bits := by
  rw [value]
  split <;> omega

/-- Whole numbers of 64 bits, added as doubles, are far from the greatest double. -/
theorem exists_add_ofInt {m n : Int} (hm : m.natAbs ≤ 2 ^ 64) (hn : n.natAbs ≤ 2 ^ 64) :
    ∃ x, (ofInt m).add (ofInt n) = some x := by
  have hmunits := units_mono (bits_ofInt_le hm)
  have hnunits := units_mono (bits_ofInt_le hn)
  have hsum : ((ofInt m).value + (ofInt n).value).natAbs ≤
      2 * units (nearestBits (2 ^ 64 * 2 ^ 1074) 1) := by
    have hmvalue := natAbs_value (ofInt m)
    have hnvalue := natAbs_value (ofInt n)
    omega
  have hfar : nearestBits (2 * units (nearestBits (2 ^ 64 * 2 ^ 1074) 1)) 1 <
      infinityBits := by decide +kernel
  have hbits := Nat.lt_of_le_of_lt (nearestBits_mono hsum) hfar
  simp only [add]
  split
  · exact ⟨_, rfl⟩
  · rw [ofBits?, dif_pos hbits]
    exact ⟨_, rfl⟩

end Double

end RecordStore
