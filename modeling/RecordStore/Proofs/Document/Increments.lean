/-
Adding to numbers.

A sum of two signed 64-bit numbers that is one itself is exact.  If it is not, the numbers are
added as doubles, and a double stands in the field from then on.  So a series of increments
gives the exact sum as long as it comes past signed numbers only, and then the order of the
increments is of no account; that the sum of all of them is a signed number is not enough.

* `Number.Signed` — the signed 64-bit numbers;
* `Number.add_signed`, `Number.exists_add_float` — the sum of two of them, exact or rounded;
* `Modifier.exists_applyIncrements` — a series of increments;
* `Modifier.apply_increments` — single increments, and series in any order.
-/
import Mathlib.Algebra.BigOperators.Group.List.Basic
import Mathlib.Algebra.Ring.Int.Defs
import RecordStore.Proofs.Document.Modifier
import RecordStore.Proofs.Json.Rounding

namespace RecordStore

namespace Number

/-! ### Sums of numbers -/

/-- The whole numbers that a signed 64-bit number can be. -/
abbrev IsSigned (n : Int) : Prop := -2 ^ 63 ≤ n ∧ n < 2 ^ 63

/-- The signed 64-bit numbers. -/
abbrev Signed : Type := { n : Int // IsSigned n }

theorem Signed.inRange (n : Signed) : InRange n.1 := ⟨n.2.1, by have h := n.2.2; omega⟩

/-- A signed number as a JSON number. -/
def ofSigned (n : Signed) : Number := .int n.1 n.inRange

variable {m n : Number} {a b : Signed}

theorem signed?_ofSigned : (ofSigned a).signed? = some a.1 := if_pos a.2.2

theorem add_of_isSigned {j k : Int} (hm : m.signed? = some j) (hn : n.signed? = some k)
    (h : IsSigned (j + k)) : m.add n = .num (ofSigned ⟨j + k, h⟩) := by
  simp only [add, hm, hn]
  rw [dif_pos h]
  rfl

theorem add_of_not_isSigned {j k : Int} {x : Double} (hm : m.signed? = some j)
    (hn : n.signed? = some k) (h : ¬IsSigned (j + k))
    (hx : m.toDouble.add n.toDouble = some x) : m.add n = .num (.float x) := by
  simp only [add, hm, hn, hx]
  rw [dif_neg h]

/-- The sum of two signed numbers is exact if it is one itself. -/
theorem add_signed (h : IsSigned (a.1 + b.1)) :
    (ofSigned a).add (ofSigned b) = .num (ofSigned ⟨a.1 + b.1, h⟩) :=
  add_of_isSigned signed?_ofSigned signed?_ofSigned h

/-- Else it is the sum of their doubles. -/
theorem exists_add_float (h : ¬IsSigned (a.1 + b.1)) :
    ∃ x, (Double.ofInt a.1).add (Double.ofInt b.1) = some x ∧
      (ofSigned a).add (ofSigned b) = .num (.float x) := by
  have ha : a.1.natAbs ≤ 2 ^ 64 := by have := a.2; omega
  have hb : b.1.natAbs ≤ 2 ^ 64 := by have := b.2; omega
  obtain ⟨x, hx⟩ := Double.exists_add_ofInt ha hb
  exact ⟨x, hx, add_of_not_isSigned signed?_ofSigned signed?_ofSigned h hx⟩

end Number

namespace Modifier

open Number (IsSigned Signed ofSigned)

/-! ### Series of increments -/

/-- The modifier that adds a signed number to a field. -/
def increment (field : String) (n : Signed) : Document :=
  [("$inc", .obj [(field, .num (ofSigned n))])]

/-- Increments of a field, applied one after the other. -/
def applyIncrements (field : String) (ns : List Signed) (d : Document) :
    Except ModifierError Document :=
  ns.foldlM (fun d n => apply (increment field n) d) d

/-- A number stays signed while numbers are added to it one after the other. -/
def StaysSigned (a : Signed) (ns : List Signed) : Prop :=
  ∀ k ≤ ns.length, IsSigned (a.1 + ((ns.take k).map Subtype.val).sum)

instance (a : Signed) (ns : List Signed) : Decidable (StaysSigned a ns) :=
  inferInstanceAs (Decidable (∀ k ≤ ns.length, _))

/-- It does so at the first number and, from the sum with it, at the others. -/
theorem StaysSigned.tail {a b : Signed} {rest : List Signed} (h : StaysSigned a (b :: rest)) :
    ∃ hfirst : IsSigned (a.1 + b.1), StaysSigned ⟨a.1 + b.1, hfirst⟩ rest := by
  have hfirst : IsSigned (a.1 + b.1) := by simpa using h 1 (by simp)
  refine ⟨hfirst, fun k hk => ?_⟩
  simpa [add_assoc] using h (k + 1) (Nat.succ_le_succ hk)

variable {field : String} {d : Document} {a : Signed}

/-- An increment of a number writes the sum into the field. -/
theorem apply_increment (hfield : field ≠ Document.idKey)
    (hd : d.get? field = some (.num (ofSigned a))) (b : Signed) :
    apply (increment field b) d = .ok (d.insert field ((ofSigned a).add (ofSigned b))) := by
  have hstep : applyOperator "$inc" field (.num (ofSigned b)) d =
      .ok (d.insert field ((ofSigned a).add (ofSigned b))) := by
    simp only [applyOperator, hd]
  simp only [increment, apply_singleton, List.foldlM_cons, List.foldlM_nil, bind_pure]
  rw [applyField, if_neg hfield, hstep]

/-- Increments that come past signed numbers only leave the exact sum. -/
theorem exists_applyIncrements (hfield : field ≠ Document.idKey) {ns : List Signed}
    (hd : d.get? field = some (.num (ofSigned a))) (hsigned : StaysSigned a ns) :
    ∃ (d' : Document) (total : Signed), applyIncrements field ns d = .ok d' ∧
      total.1 = a.1 + (ns.map Subtype.val).sum ∧ d'.get? field = some (.num (ofSigned total)) ∧
      ∀ key, key ≠ field → d'.get? key = d.get? key := by
  induction ns generalizing d a with
  | nil => exact ⟨d, a, rfl, (add_zero _).symm, hd, fun _ _ => rfl⟩
  | cons b rest ih =>
    obtain ⟨hfirst, hrest⟩ := hsigned.tail
    have hstep := apply_increment hfield hd b
    rw [Number.add_signed hfirst] at hstep
    -- The other increments start from the first sum.
    obtain ⟨d', total, hok, htotal, hd', hother⟩ :=
      ih (d := d.insert field (.num (ofSigned ⟨a.1 + b.1, hfirst⟩)))
        (by rw [Entries.get?_insert, if_pos rfl]) hrest
    refine ⟨d', total, ?_, ?_, hd', fun key hkey => ?_⟩
    · rw [applyIncrements, List.foldlM_cons, hstep]
      exact hok
    · rw [htotal, List.map_cons, List.sum_cons, add_assoc]
    · rw [hother key hkey, Entries.get?_insert, if_neg (Ne.symm hkey)]

/-- An increment by a signed number of a field that holds one succeeds and changes that field
only.  The field then holds the sum, as a whole number if this is a signed one too and as the
sum of the two doubles else.  Increments that come past signed numbers only, in whatever order,
leave one and the same number. -/
theorem apply_increments (hfield : field ≠ Document.idKey)
    (hd : d.get? field = some (.num (ofSigned a))) :
    (∀ b : Signed, ∃ d', apply (increment field b) d = .ok d' ∧
      (∀ key, key ≠ field → d'.get? key = d.get? key) ∧
      (∀ h : IsSigned (a.1 + b.1),
        d'.get? field = some (.num (ofSigned ⟨a.1 + b.1, h⟩))) ∧
      (¬IsSigned (a.1 + b.1) → ∃ x, (Double.ofInt a.1).add (Double.ofInt b.1) = some x ∧
        d'.get? field = some (.num (.float x)))) ∧
    ∀ ns, StaysSigned a ns → ∃ total : Signed, total.1 = a.1 + (ns.map Subtype.val).sum ∧
      ∀ ms, ms.Perm ns → StaysSigned a ms → ∃ d', applyIncrements field ms d = .ok d' ∧
        d'.get? field = some (.num (ofSigned total)) ∧
        ∀ key, key ≠ field → d'.get? key = d.get? key := by
  refine ⟨fun b => ⟨_, apply_increment hfield hd b, fun key hkey => ?_, fun h => ?_, fun h => ?_⟩,
    fun ns hns => ?_⟩
  · rw [Entries.get?_insert, if_neg (Ne.symm hkey)]
  · rw [Entries.get?_insert, if_pos rfl, Number.add_signed h]
  · obtain ⟨x, hx, hsum⟩ := Number.exists_add_float h
    exact ⟨x, hx, by rw [Entries.get?_insert, if_pos rfl, hsum]⟩
  · obtain ⟨-, total, -, htotal, -, -⟩ := exists_applyIncrements hfield hd hns
    refine ⟨total, htotal, fun ms hperm hms => ?_⟩
    obtain ⟨d', total', hok, htotal', hd', hother⟩ := exists_applyIncrements hfield hd hms
    have hsame : total' = total :=
      Subtype.ext (by rw [htotal', htotal, (hperm.map Subtype.val).sum_eq])
    exact ⟨d', hok, hsame ▸ hd', hother⟩

/-- Two orders of increments between the ends of the signed numbers. -/
theorem apply_increments_ends :
    let d : Document := [("_id", .str "c1"), ("n", .num (.int 9223372036854775800))]
    let a : Signed := ⟨9223372036854775800, by decide⟩
    let up : Signed := ⟨7, by decide⟩
    let down : Signed := ⟨-9223372036854775808, by decide⟩
    let total : Signed := ⟨-1, by decide⟩
    "n" ≠ Document.idKey ∧ d.get? "n" = some (.num (ofSigned a)) ∧
      StaysSigned a [up, down] ∧ StaysSigned a [down, up] ∧
      ∃ d₁ d₂, applyIncrements "n" [up, down] d = .ok d₁ ∧
        applyIncrements "n" [down, up] d = .ok d₂ ∧
        d₁.get? "n" = some (.num (ofSigned total)) ∧
        d₂.get? "n" = some (.num (ofSigned total)) := by
  intro d a up down total
  have hfield : "n" ≠ Document.idKey := by decide
  have hd : d.get? "n" = some (.num (ofSigned a)) := rfl
  have hup : StaysSigned a [up, down] := by decide
  have hdown : StaysSigned a [down, up] := by decide
  obtain ⟨-, hseries⟩ := apply_increments hfield hd
  obtain ⟨sum, hsum, hany⟩ := hseries _ hup
  have htotal : sum = total := Subtype.ext hsum
  obtain ⟨d₁, hok₁, hd₁, -⟩ := hany [up, down] (.refl _) hup
  obtain ⟨d₂, hok₂, hd₂, -⟩ := hany [down, up] (.swap _ _ _) hdown
  exact ⟨hfield, hd, hup, hdown, d₁, d₂, hok₁, hok₂, htotal ▸ hd₁, htotal ▸ hd₂⟩

/-- The sum of the greatest signed number and two, which an unsigned number could hold, becomes a
double that is less by one, and an identifier takes no increment. -/
theorem apply_increments_overflow :
    let last : Json := .num (.int 9223372036854775807)
    let two : Json := .num (.int 2)
    let next : Json := .num (.float ⟨false, 0x43e0000000000000, by decide⟩)
    Number.InRange (9223372036854775807 + 2) ∧
      apply [("$inc", .obj [("n", two)])] [("_id", .str "c1"), ("n", last)] =
        .ok [("_id", .str "c1"), ("n", next)] ∧
      apply [("$inc", .obj [("_id", two)])] [("_id", two)] = .error .immutableId := by
  intro last two next
  have hsum : (Double.ofInt 9223372036854775807).add (Double.ofInt 2) =
      some ⟨false, 0x43e0000000000000, by decide⟩ := by decide +kernel
  have hnext : Number.add (.int 9223372036854775807) (.int 2) = next :=
    Number.add_of_not_isSigned rfl rfl (by decide) hsum
  refine ⟨by decide, ?_, rfl⟩
  rw [← hnext]
  exact apply_increment (a := ⟨9223372036854775807, by decide⟩) (by decide) rfl ⟨2, by decide⟩

end Modifier

end RecordStore
