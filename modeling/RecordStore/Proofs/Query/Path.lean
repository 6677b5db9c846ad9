/-
Where dotted paths lead.

A name without a point is a path of one step, and a point behind such a name starts the
next step.  The decimal digits of a number are read back as that number, so the path that
ends in them leads to that place of an array.

* `Document.resolve?_of_notMem` — a name without a point leads to the entry of that name;
* `Document.resolve?_place` — a name, a point and a number lead to a place of an array;
* `Document.exists_resolve?_eq_some` — every path leads to any value in some document.
-/
import RecordStore.Query.Path
import Mathlib.Data.Nat.Digits.Defs

namespace RecordStore

/-! ### Steps -/

namespace Path

theorem cut_of_notMem {cs : List Char} (h : '.' ∉ cs) : cut cs = (cs, []) := by
  induction cs with
  | nil => rfl
  | cons c rest ih =>
    rw [List.mem_cons, not_or] at h
    simp only [cut, ih h.2, if_neg (Ne.symm h.1)]

theorem cut_append_point {cs : List Char} (h : '.' ∉ cs) (rest : List Char) :
    cut (cs ++ '.' :: rest) = (cs, (cut rest).1 :: (cut rest).2) := by
  induction cs with
  | nil => simp only [List.nil_append, cut, if_true]
  | cons c cs ih =>
    rw [List.mem_cons, not_or] at h
    simp only [List.cons_append, cut, ih h.2, if_neg (Ne.symm h.1)]

variable {name : String}

/-- A name without a point is its own and only step. -/
theorem steps_of_notMem (h : '.' ∉ name.toList) : steps name = (name, []) := by
  simp only [steps, cut_of_notMem h, String.ofList_toList, List.map_nil]

/-- Behind a point a new step starts. -/
theorem steps_append_point (h : '.' ∉ name.toList) (rest : String) :
    steps (name ++ "." ++ rest) = (name, (steps rest).1 :: (steps rest).2) := by
  have hchars : (name ++ "." ++ rest).toList = name.toList ++ '.' :: rest.toList := by
    simp [String.toList_append]
  simp only [steps, hchars, cut_append_point h, String.ofList_toList, List.map_cons]

/-- A name with a point is a name without one, the point and the rest. -/
theorem exists_eq_append_point (h : '.' ∈ name.toList) :
    ∃ first rest : String, '.' ∉ first.toList ∧ name = first ++ "." ++ rest := by
  obtain ⟨cs, ds, hchars, hcs⟩ := List.eq_append_cons_of_mem h
  refine ⟨String.ofList cs, String.ofList ds, by rwa [String.toList_ofList], ?_⟩
  rw [← String.toList_inj, hchars]
  simp [String.toList_append]

theorem isDigit_of_mem_digits {n : Nat} {c : Char} (h : c ∈ Decimal.digits n) :
    c.isDigit = true :=
  Nat.isDigit_of_mem_toDigits (by omega) (by omega) h

/-- The digits of a number, read from the left, give the number. -/
theorem foldl_digits (n : Nat) :
    (Decimal.digits n).foldl (fun n c => n * 10 + (c.toNat - '0'.toNat)) 0 = n := by
  calc (Decimal.digits n).foldl (fun n c => n * 10 + (c.toNat - '0'.toNat)) 0
      = Nat.ofDigitChars 10 (Decimal.digits n) 0 := by simp only [Nat.ofDigitChars, Nat.mul_comm]
    _ = n := Nat.ofDigitChars_ten_toDigits

/-- A number of 64 bits in decimal is read as the position of that number. -/
theorem position?_text {n : Nat} (h : n < 2 ^ 64) : position? (Decimal.text n) = some n := by
  have hdigit : ∀ c ∈ Decimal.digits n, c.isDigit = true := fun c hc => isDigit_of_mem_digits hc
  unfold position?
  extract_lets ds value
  -- No sign stands before the digits.
  have hds : ds = Decimal.digits n := by
    simp only [ds, Decimal.text, String.toList_ofList]
    split
    · rename_i rest heq
      have hplus : '+' ∈ Decimal.digits n := by
        rw [heq]
        exact List.mem_cons_self
      exact absurd (hdigit _ hplus) (by decide)
    · rfl
  have hne : ds.isEmpty = false := by
    rw [hds, List.isEmpty_eq_false_iff]
    exact Nat.toDigits_ne_nil
  have hall : ds.all Char.isDigit = true := by
    rw [hds, List.all_eq_true]
    exact hdigit
  have hvalue : value = n := by
    show ds.foldl _ 0 = n
    rw [hds, foldl_digits]
  rw [hne, hall, if_neg (by decide), hvalue, if_pos h]

end Path

/-! ### Documents -/

namespace Document

variable {name : String}

/-- A name without a point leads to the entry of that name. -/
theorem resolve?_of_notMem (d : Document) (h : '.' ∉ name.toList) :
    d.resolve? name = d.get? name := by
  simp only [resolve?, Path.steps_of_notMem h]
  cases d.get? name <;> rfl

/-- The digits of a number behind the name of an array lead to that place of the array. -/
theorem resolve?_place {d : Document} {items : List Json} {n : Nat} (h : '.' ∉ name.toList)
    (hd : d.get? name = some (.arr items)) (hn : n < 2 ^ 64) :
    d.resolve? (name ++ "." ++ Decimal.text n) = items[n]? := by
  have hpoint : '.' ∉ (Decimal.text n).toList := by
    intro hmem
    rw [Decimal.text, String.toList_ofList] at hmem
    exact absurd (Path.isDigit_of_mem_digits hmem) (by decide)
  simp only [resolve?, Path.steps_append_point h, Path.steps_of_notMem hpoint, hd,
    Option.bind_some, Json.descend?, List.foldlM_cons, List.foldlM_nil, Json.child?,
    Path.position?_text hn]
  cases items[n]? <;> rfl

/-- A path leads nowhere if nothing stands below what its first step leads to. -/
theorem resolve?_append_point_eq_none {d : Document} (h : '.' ∉ name.toList) (rest : String)
    (hd : ∀ v, d.get? name = some v → ∀ step, v.child? step = none) :
    d.resolve? (name ++ "." ++ rest) = none := by
  simp only [resolve?, Path.steps_append_point h]
  cases hv : d.get? name with
  | none => rfl
  | some v =>
    rw [Option.bind_some, Json.descend?, List.foldlM_cons, hd v hv]
    rfl

/-- Every path leads to any value in some document: one object inside the other, each with
the next step for its only key. -/
theorem exists_resolve?_eq_some (path : String) (v : Json) :
    ∃ d : Document, d.resolve? path = some v := by
  have hnested : ∀ steps : List String,
      Json.descend? (steps.foldr (fun step inner => .obj [(step, inner)]) v) steps = some v := by
    intro steps
    induction steps with
    | nil => rfl
    | cons step rest ih =>
      simp only [Json.descend?, List.foldr_cons, List.foldlM_cons, Json.child?, Entries.get?_cons,
        if_true, Option.bind_eq_bind, Option.bind_some]
      exact ih
  refine ⟨[((Path.steps path).1, (Path.steps path).2.foldr (fun step inner => .obj [(step, inner)])
    v)], ?_⟩
  simp only [resolve?, Entries.get?_cons, if_true, Option.bind_some]
  exact hnested _

end Document

end RecordStore
