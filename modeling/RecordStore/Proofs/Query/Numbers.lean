/-
Whole numbers in queries and in sorting.

Sorting compares whole numbers exactly.  So do queries as long as both numbers are signed
64-bit numbers; if one of them is greater they compare the nearest doubles.  Rounding keeps the
order, so that this never turns two numbers round, but two numbers that are rounded to one
double are then taken for equal by the order, while equality still tells them apart.

* `Number.Blurred` — two whole numbers that queries cannot put in order;
* `Number.compare_int` — how queries compare whole numbers;
* `Condition.holds_int` — which comparisons of a whole number with another one hold, and how
  the two are sorted.
-/
import RecordStore.Proofs.Document.Sort
import RecordStore.Proofs.Query.Path
import RecordStore.Proofs.Query.Selects

namespace RecordStore

/-! ### Doubles of whole numbers -/

namespace Double

/-- Only the sign decides between the two ways of placing a double. -/
theorem key_ofInt (n : Int) :
    (ofInt n).key = if n < 0 then (ofInt n).rank + 1 else (ofInt n).rank := by
  have hsign : (ofInt n).negative = decide (n < 0) := by
    rw [ofInt, saturate]
    split <;> rfl
  by_cases hn : n < 0
  · rw [key, rank, hsign, decide_eq_true hn, if_pos rfl, if_pos rfl, if_pos hn]
    omega
  · rw [key, rank, hsign, decide_eq_false hn, if_neg Bool.false_ne_true,
      if_neg Bool.false_ne_true, if_neg hn]

theorem rank_ofInt_of_pos {n : Int} (h : 0 < n) : 0 < (ofInt n).rank := by
  have hone : (ofInt 1).rank = 0x3ff0000000000000 := by decide +kernel
  have hle : (ofInt 1).rank ≤ (ofInt n).rank := rank_ofInt_mono (by omega)
  omega

/-- The doubles of two whole numbers, one of them positive, are compared by their ranks. -/
theorem compare_ofInt {m n : Int} (h : 0 < m ∨ 0 < n) :
    (ofInt m).compare (ofInt n) = Ord.compare (ofInt m).rank (ofInt n).rank := by
  rw [Double.compare, key_ofInt, key_ofInt]
  by_cases hm : m < 0
  · have hn : 0 < n := h.resolve_left (by omega)
    have hmrank := rank_ofInt_of_neg hm
    have hnrank := rank_ofInt_of_pos hn
    rw [if_pos hm, if_neg (by omega), compare_lt_iff_lt.mpr (by omega),
      compare_lt_iff_lt.mpr (by omega)]
  · by_cases hn : n < 0
    · have hm' : 0 < m := h.resolve_right (by omega)
      have hmrank := rank_ofInt_of_pos hm'
      have hnrank := rank_ofInt_of_neg hn
      rw [if_neg hm, if_pos hn, compare_gt_iff_gt.mpr (by omega),
        compare_gt_iff_gt.mpr (by omega)]
    · rw [if_neg hm, if_neg hn]

/-- Rounding keeps the order of two whole numbers or makes them one. -/
theorem compare_rank_ofInt (m n : Int) :
    Ord.compare (ofInt m).rank (ofInt n).rank =
      if ofInt m = ofInt n then .eq else Ord.compare m n := by
  by_cases heq : ofInt m = ofInt n
  · rw [if_pos heq, heq, compare_eq_iff_eq]
  · have hrank : (ofInt m).rank ≠ (ofInt n).rank := fun h => heq (rank_injective h)
    rw [if_neg heq]
    rcases lt_trichotomy m n with hlt | rfl | hgt
    · have hle := rank_ofInt_mono hlt.le
      rw [compare_lt_iff_lt.mpr hlt, compare_lt_iff_lt]
      omega
    · exact absurd rfl heq
    · have hle := rank_ofInt_mono hgt.le
      rw [compare_gt_iff_gt.mpr hgt, compare_gt_iff_gt]
      omega

end Double

/-! ### Comparing in queries -/

namespace Number

/-- Two whole numbers that are rounded to one double, not both of them signed numbers. -/
def Blurred (m n : Int) : Prop :=
  m ≠ n ∧ (2 ^ 63 ≤ m ∨ 2 ^ 63 ≤ n) ∧ Double.ofInt m = Double.ofInt n

instance (m n : Int) : Decidable (Blurred m n) := inferInstanceAs (Decidable (_ ∧ _))

variable {m n : Int} (hm : InRange m) (hn : InRange n)

/-- Queries compare whole numbers exactly unless the numbers are blurred, which then tie. -/
theorem compare_int :
    (int m hm).compare (int n hn) = if Blurred m n then .eq else Ord.compare m n := by
  by_cases hsigned : m < 2 ^ 63 ∧ n < 2 ^ 63
  · have hclear : ¬Blurred m n := fun h => by
      have hbig := h.2.1
      omega
    simp only [Number.compare, signed?, if_pos hsigned.1, if_pos hsigned.2, if_neg hclear]
  · have hbig : 2 ^ 63 ≤ m ∨ 2 ^ 63 ≤ n := by omega
    have hdoubles : (int m hm).compare (int n hn) =
        (Double.ofInt m).compare (Double.ofInt n) := by
      by_cases hm' : m < 2 ^ 63
      · have hn' : ¬n < 2 ^ 63 := by omega
        simp only [Number.compare, signed?, if_pos hm', if_neg hn', toDouble]
      · simp only [Number.compare, signed?, if_neg hm', toDouble]
    rw [hdoubles, Double.compare_ofInt (by omega), Double.compare_rank_ofInt]
    by_cases heq : m = n
    · subst heq
      rw [if_pos rfl, if_neg fun h => h.1 rfl, compare_eq_iff_eq.mpr rfl]
    · by_cases hrounded : Double.ofInt m = Double.ofInt n
      · rw [if_pos hrounded, if_pos ⟨heq, hbig, hrounded⟩]
      · rw [if_neg hrounded, if_neg fun h => hrounded h.2.2]

theorem compare_int_eq_iff {o : Ordering} (ho : o ≠ .eq) :
    (int m hm).compare (int n hn) = o ↔ Ord.compare m n = o ∧ ¬Blurred m n := by
  rw [compare_int]
  split
  · rename_i hblurred
    exact iff_of_false ho.symm fun h => h.2 hblurred
  · rename_i hclear
    exact (and_iff_left hclear).symm

theorem compare_int_eq_lt_iff : (int m hm).compare (int n hn) = .lt ↔ m < n ∧ ¬Blurred m n := by
  rw [compare_int_eq_iff hm hn (by decide), compare_lt_iff_lt]

theorem compare_int_eq_gt_iff : (int m hm).compare (int n hn) = .gt ↔ n < m ∧ ¬Blurred m n := by
  rw [compare_int_eq_iff hm hn (by decide), compare_gt_iff_gt]

end Number

namespace Condition

/-! ### Conditions -/

section Conditions

variable (m n : Number)

theorem holds_eq_num :
    holds (some (.num m)) (.obj [("$eq", .num n)]) = m.same n :=
  (holds_operator _ (by decide) (by decide) _).trans (Bool.or_false _)

theorem holds_lt_num :
    holds (some (.num m)) (.obj [("$lt", .num n)]) = (m.compare n == .lt) :=
  holds_operator _ (by decide) (by decide) _

theorem holds_gt_num :
    holds (some (.num m)) (.obj [("$gt", .num n)]) = (m.compare n == .gt) :=
  holds_operator _ (by decide) (by decide) _

theorem holds_lte_num :
    holds (some (.num m)) (.obj [("$lte", .num n)]) = (m.compare n != .gt) :=
  holds_operator _ (by decide) (by decide) _

theorem holds_gte_num :
    holds (some (.num m)) (.obj [("$gte", .num n)]) = (m.compare n != .lt) :=
  holds_operator _ (by decide) (by decide) _

end Conditions

end Condition

/-! ### Sorting by whole numbers -/

section Sorting

variable {key : SortKey} {d e : Document} {m n : Int} {hm : Number.InRange m}
  {hn : Number.InRange n} (hdirection : key.direction = .ascending)
  (hd : d.resolve? key.field = some (.num (.int m hm)))
  (he : e.resolve? key.field = some (.num (.int n hn)))

include hdirection hd he

theorem SortKey.compare_int : key.compare d e = Ord.compare m n := by
  rw [compare_of_ascending d e hdirection, hd, he, ← Number.sortCompare_int hm hn]
  rfl

/-- The first of two documents changes its place with the second if it has the greater
number. -/
theorem Document.sort_int : sort [key] [e, d] = if m < n then [d, e] else [e, d] := by
  have hall : SortKey.compareAll [key] d e = Ord.compare m n := by
    rw [SortKey.compareAll, SortKey.compareAll, SortKey.compare_int hdirection hd he]
    exact Ordering.then_eq
  simp only [sort, List.foldl_cons, List.foldl_nil, insertSorted, hall, compare_lt_iff_lt]
  split <;> rfl

end Sorting

namespace Condition

/-- A whole number equals another just if it is the same.  It stands before or behind another
as the order of whole numbers has it, unless the two are blurred: then none of the strict
comparisons holds, and both of the others do.  Sorting puts the lesser one first in any
case. -/
theorem holds_int (m n : Int) (hm : Number.InRange m) (hn : Number.InRange n) :
    let v : Json := .num (.int m hm)
    let w : Json := .num (.int n hn)
    let meets (operator : String) : Bool := holds (some v) (.obj [(operator, w)])
    (meets "$eq" = true ↔ m = n) ∧
    (meets "$lt" = true ↔ m < n ∧ ¬Number.Blurred m n) ∧
    (meets "$gt" = true ↔ n < m ∧ ¬Number.Blurred m n) ∧
    (meets "$lte" = true ↔ m ≤ n ∨ Number.Blurred m n) ∧
    (meets "$gte" = true ↔ n ≤ m ∨ Number.Blurred m n) ∧
    (["$lt", "$eq", "$gt"].countP meets = 1 ↔ ¬Number.Blurred m n) ∧
    ∀ (key : SortKey) (d e : Document), key.direction = .ascending →
      d.resolve? key.field = some v → e.resolve? key.field = some w →
      (key.compare d e = .lt ↔ m < n) ∧
        Document.sort [key] [e, d] = if m < n then [d, e] else [e, d] := by
  intro v w meets
  have heq : meets "$eq" = true ↔ m = n := by
    show holds (some v) (.obj [("$eq", w)]) = true ↔ _
    rw [holds_eq_num, Number.same, beq_iff_eq]
  have hlt : meets "$lt" = true ↔ m < n ∧ ¬Number.Blurred m n := by
    show holds (some v) (.obj [("$lt", w)]) = true ↔ _
    rw [holds_lt_num, beq_iff_eq, Number.compare_int_eq_lt_iff]
  have hgt : meets "$gt" = true ↔ n < m ∧ ¬Number.Blurred m n := by
    show holds (some v) (.obj [("$gt", w)]) = true ↔ _
    rw [holds_gt_num, beq_iff_eq, Number.compare_int_eq_gt_iff]
  have hlte : meets "$lte" = true ↔ m ≤ n ∨ Number.Blurred m n := by
    show holds (some v) (.obj [("$lte", w)]) = true ↔ _
    rw [holds_lte_num, bne_iff_ne, Ne, Number.compare_int_eq_gt_iff, not_and_or, Int.not_lt,
      not_not]
  have hgte : meets "$gte" = true ↔ n ≤ m ∨ Number.Blurred m n := by
    show holds (some v) (.obj [("$gte", w)]) = true ↔ _
    rw [holds_gte_num, bne_iff_ne, Ne, Number.compare_int_eq_lt_iff, not_and_or, Int.not_lt,
      not_not]
  refine ⟨heq, hlt, hgt, hlte, hgte, ?_, fun key d e hdirection hd he => ?_⟩
  · simp only [List.countP_cons, List.countP_nil, heq, hlt, hgt]
    by_cases hblurred : Number.Blurred m n
    · have hne : m ≠ n := hblurred.1
      simp [hblurred, hne]
    · rcases lt_trichotomy m n with h | rfl | h
      · simp [hblurred, h, h.ne, h.not_gt]
      · simp [hblurred]
      · simp [hblurred, h, h.ne', h.not_gt]
  · rw [SortKey.compare_int hdirection hd he, compare_lt_iff_lt]
    exact ⟨Iff.rfl, Document.sort_int hdirection hd he⟩

/-- A number that only an unsigned number of 64 bits can hold, and the greatest signed one but
for a thousand. -/
theorem holds_int_apart :
    let v : Json := .num (.int 9223372036854774807)
    let w : Json := .num (.int 9223372036854775808)
    let key : SortKey := { field := "n" }
    Number.InRange 9223372036854774807 ∧ Number.InRange 9223372036854775808 ∧
      holds (some v) (.obj [("$lt", w)]) = true ∧
      Document.sort [key] [[("n", w)], [("n", v)]] = [[("n", v)], [("n", w)]] := by
  intro v w key
  have hm : Number.InRange 9223372036854774807 := by decide
  have hn : Number.InRange 9223372036854775808 := by decide
  obtain ⟨-, hlt, -, -, -, -, hsort⟩ := holds_int _ _ hm hn
  refine ⟨hm, hn, hlt.mpr ⟨by decide, by decide +kernel⟩, ?_⟩
  have hd : Document.resolve? [("n", v)] "n" = some v := Document.resolve?_of_notMem _ (by decide)
  have he : Document.resolve? [("n", w)] "n" = some w := Document.resolve?_of_notMem _ (by decide)
  exact (hsort key [("n", v)] [("n", w)] rfl hd he).2

/-- The greatest signed number and the next one, which is rounded to the same double: in a
query neither of them is less than the other, and they are not equal. -/
theorem holds_int_blurred :
    let v : Json := .num (.int 9223372036854775807)
    let w : Json := .num (.int 9223372036854775808)
    holds (some v) (.obj [("$lt", w)]) = false ∧ holds (some v) (.obj [("$eq", w)]) = false ∧
      holds (some v) (.obj [("$gt", w)]) = false ∧ holds (some v) (.obj [("$gte", w)]) = true ∧
      Json.sortCompare (some v) (some w) = .lt := by
  decide +kernel

end Condition

end RecordStore
