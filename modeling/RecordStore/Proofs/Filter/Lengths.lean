/-
Which arrays a range of an array selects.

A range of an array is about the number of items.  It asks for an item at the place before
the lower bound and for none at the place of the upper bound, and an array has an item just
at the places below its length.  Both questions stand in one clause under the paths of their
places.  If the lower bound is one more than the upper one, then the two places are the same,
and the upper bound, which is written last, takes the entry: the range should select nothing
but selects every array that is short enough.

* `Filter.selects_lengthConditions` — the two questions, in terms of paths;
* `Filter.selects_range_array` — the arrays that a range selects.
-/
import RecordStore.Proofs.Filter.Leaves
import RecordStore.Proofs.Query.Path
import RecordStore.Proofs.Schema.RecordType

namespace RecordStore

/-- A 64-bit count is a bound on the number of items. -/
theorem Json.length?_ofWord (n : UInt64) : (Json.ofWord n).length? = some n.toNat := by
  show (if (0 : Int) ≤ n.toNat then some (n.toNat : Int).toNat else none) = some n.toNat
  rw [if_pos (by omega), Int.toNat_natCast]

theorem Json.bind_length?_ofWord (bound : Option UInt64) :
    (bound.map Json.ofWord).bind Json.length? = bound.map UInt64.toNat := by
  cases bound with
  | none => rfl
  | some n => exact Json.length?_ofWord n

namespace Filter

/-- The clause of a range asks for an item before the place of the lower bound, unless that is
the place of the upper one, and for no item at the place of the upper bound. -/
theorem selects_lengthConditions {field : String}
    (plain : Condition.isOperatorKey field = false) (low high : Option Nat) (d : Document) :
    Query.selects d (Entries.ofList
        (low.toList.map (fun n => (placePath field (n - 1), .obj [("$exists", .bool true)])) ++
          high.toList.map fun n => (placePath field n, .obj [("$exists", .bool false)]))) = true ↔
      (∀ lo ∈ low, (∀ hi ∈ high, lo - 1 ≠ hi) →
        (d.resolve? (placePath field (lo - 1))).isSome = true) ∧
      ∀ hi ∈ high, (d.resolve? (placePath field hi)).isSome = false := by
  have hplace : ∀ n, Condition.isOperatorKey (placePath field n) = false := by
    intro n
    rw [placePath, isOperatorKey_point, plain]
  cases low with
  | none =>
    cases high with
    | none => simp [Entries.ofList, Entries.insertAll, Query.selects]
    | some hi =>
      rw [selects_ofList (by simp [Entries.keys]) (by simp [hplace])]
      simp [holds_exists]
  | some lo =>
    cases high with
    | none =>
      rw [selects_ofList (by simp [Entries.keys]) (by simp [hplace])]
      simp [holds_exists]
    | some hi =>
      by_cases hsame : lo - 1 = hi
      -- The entry of the upper bound takes the place of the other.
      · have hone : Entries.ofList
            [(placePath field hi, Json.obj [("$exists", .bool true)]),
              (placePath field hi, .obj [("$exists", .bool false)])]
            = [(placePath field hi, .obj [("$exists", .bool false)])] :=
          Entries.insert_insert [] _ _ _
        simp only [Option.toList_some, List.map_cons, List.map_nil, List.cons_append,
          List.nil_append, hsame, hone, selects_entry (hplace hi), holds_exists]
        simp [hsame]
      · have hplaces : placePath field (lo - 1) ≠ placePath field hi :=
          (placePath_injective field).ne hsame
        rw [selects_ofList (by simp [Entries.keys, hplaces]) (by simp [hplace])]
        simp [holds_exists, hsame]

/-- An array has an item at the places below its length. -/
theorem isSome_resolve?_placePath {field : String} (hpoint : '.' ∉ field.toList) {d : Document}
    {items : List Json} (hd : d.get? field = some (.arr items)) {n : Nat} (hn : n < 2 ^ 64) :
    (d.resolve? (placePath field n)).isSome = decide (n < items.length) := by
  rw [placePath, Document.resolve?_place hpoint hd hn, Bool.eq_iff_iff, decide_eq_true_iff,
    isSome_getElem?]

section Arrays

variable {t : RecordType} {f : Field} (hf : f ∈ t.fields) (harray : f.isArray = true)
  (plain : Condition.isOperatorKey f.name = false) (hpoint : '.' ∉ f.name.toList)

include hf harray plain hpoint

/-- A range of an array selects the arrays with a number of items within its bounds, with one
exception: a lower bound that is one more than the upper bound is of no account. -/
theorem selects_range_array {bounds : Bounds} {low high : Option UInt64}
    (hlow : bounds.low? = low.map Json.ofWord) (hhigh : bounds.high? = high.map Json.ofWord)
    {d : Document} {items : List Json} (hd : d.get? f.name = some (.arr items)) :
    Query.selects d ((Filter.range [(f.name, bounds)]).query t) = true ↔
      (∀ lo ∈ low, (∀ hi ∈ high, lo.toNat ≠ hi.toNat + 1) → lo.toNat ≤ items.length) ∧
      ∀ hi ∈ high, items.length ≤ hi.toNat := by
  have hisArray : t.isArray f.name = true := t.isArray_iff.mpr ⟨f, hf, rfl, harray⟩
  rw [query_range, rangeEntries_of_isArray hisArray, selects_lengthConditions plain, hlow, hhigh,
    Json.bind_length?_ofWord, Json.bind_length?_ofWord]
  simp only [Option.mem_filter_iff, Option.forall_mem_map, and_imp, decide_eq_true_iff]
  have hplace : ∀ n < 2 ^ 64,
      (d.resolve? (placePath f.name n)).isSome = decide (n < items.length) :=
    fun n => isSome_resolve?_placePath hpoint hd
  refine and_congr (forall₂_congr fun lo _ => ?_) (forall₂_congr fun hi _ => ?_)
  · have hlt := lo.toNat_lt
    rw [hplace (lo.toNat - 1) (by omega), decide_eq_true_iff]
    constructor
    · intro hitem hcrossed
      -- A lower bound of zero asks for nothing, and every array has at least no items.
      rcases Nat.eq_zero_or_pos lo.toNat with hzero | hpositive
      · omega
      · have hbelow := hitem hpositive fun hi hhi heq => hcrossed hi hhi (by omega)
        omega
    · intro hlength hpositive hcrossed
      have hle := hlength fun hi hhi heq => hcrossed hi hhi (by omega)
      omega
  · rw [hplace hi.toNat hi.toNat_lt, decide_eq_false_iff_not, Nat.not_lt]

end Arrays

/-- A range from two items to four and an array of three. -/
theorem selects_range_array_within :
    let f : Field := { name := "tags", isArray := true }
    let t : RecordType :=
      { name := "post", fields := [f], nodup := by decide, unreserved := by decide }
    let bounds : Bounds := { low := some (.ofWord 2), high := some (.ofWord 4) }
    let items : List Json := [.str "a", .str "b", .str "c"]
    let d : Document := [("tags", .arr items)]
    f ∈ t.fields ∧ f.isArray = true ∧ Condition.isOperatorKey f.name = false ∧
      '.' ∉ f.name.toList ∧ bounds.low? = (some 2).map Json.ofWord ∧
      bounds.high? = (some 4).map Json.ofWord ∧ d.get? f.name = some (.arr items) ∧
      Query.selects d ((Filter.range [(f.name, bounds)]).query t) = true := by
  intro f t bounds items d
  have hf : f ∈ t.fields := List.mem_singleton_self _
  have plain : Condition.isOperatorKey f.name = false := by decide
  have hpoint : '.' ∉ f.name.toList := by decide
  have hlow : bounds.low? = (some 2).map Json.ofWord := rfl
  have hhigh : bounds.high? = (some 4).map Json.ofWord := rfl
  have hd : d.get? f.name = some (.arr items) := rfl
  refine ⟨hf, rfl, plain, hpoint, hlow, hhigh, hd, ?_⟩
  refine (selects_range_array hf rfl plain hpoint hlow hhigh hd).mpr ⟨?_, ?_⟩
  · intro lo hlo _
    obtain rfl := Option.mem_some_iff.mp hlo
    decide
  · intro hi hhi
    obtain rfl := Option.mem_some_iff.mp hhi
    decide

/-- A range from three items to two selects an array of two: there is one entry, and it only
asks for an array without a third item. -/
theorem selects_range_array_crossed :
    let t : RecordType :=
      { name := "post", fields := [{ name := "tags", isArray := true }]
        nodup := by decide, unreserved := by decide }
    let items : List Json := [.str "a", .str "b"]
    let bounds : Bounds := { low := some (.ofWord 3), high := some (.ofWord 2) }
    Query.selects [("tags", .arr items)] ((Filter.range [("tags", bounds)]).query t) = true ∧
      ¬((3 : UInt64).toNat ≤ items.length ∧ items.length ≤ (2 : UInt64).toNat) := by
  decide +kernel

end Filter

end RecordStore
