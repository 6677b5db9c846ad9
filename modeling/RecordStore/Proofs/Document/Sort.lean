/-
Sorting documents.

Sorting puts the documents one after the other into a list.  That neither loses documents nor
makes any up.  The result is in order if the order of the documents at hand is transitive,
and under a list of keys it is if it is under each key: if at no key there is a double
between two whole numbers that are both rounded to it.

* `Document.perm_sort` — sorting only changes places;
* `SortKey.Unstraddled`, `SortKey.transCmp_compare_iff` — the documents that a key orders;
* `Document.pairwise_insertSorted` — inserting keeps the order of a list;
* `Document.sort_consistent` — comparing documents, and the order of the documents sorted.
-/
import RecordStore.Proofs.Document.Order

namespace RecordStore

/-! ### Keys -/

namespace SortKey

/-- Among these documents no double stands under the key between two whole numbers that are
both rounded to it. -/
def Unstraddled (key : SortKey) (ds : List Document) : Prop :=
  ∀ d ∈ ds, ∀ e ∈ ds, ∀ f ∈ ds,
    ¬Json.Straddle (d.resolve? key.field) (e.resolve? key.field) (f.resolve? key.field)

instance (key : SortKey) (ds : List Document) : Decidable (key.Unstraddled ds) :=
  inferInstanceAs (Decidable (∀ d ∈ ds, ∀ e ∈ ds, ∀ f ∈ ds, ¬Json.Straddle _ _ _))

section Compare

variable {key : SortKey} (d e : Document)

theorem compare_of_ascending (h : key.direction = .ascending) :
    key.compare d e = Json.sortCompare (d.resolve? key.field) (e.resolve? key.field) := by
  rw [compare, h]

theorem compare_of_descending (h : key.direction = .descending) :
    key.compare d e = Json.sortCompare (e.resolve? key.field) (d.resolve? key.field) := by
  rw [compare, h]
  exact (Json.sortCompare_swap _ _).symm

variable (key)

theorem compare_swap : key.compare e d = (key.compare d e).swap := by
  cases h : key.direction with
  | ascending => rw [compare_of_ascending _ _ h, compare_of_ascending _ _ h, Json.sortCompare_swap]
  | descending =>
    rw [compare_of_descending _ _ h, compare_of_descending _ _ h, Json.sortCompare_swap]

end Compare

variable {ds : List Document}

/-- A key orders the documents just if no double stands between two of them. -/
theorem transCmp_compare_iff {key : SortKey} :
    (Std.TransCmp fun d e : {d // d ∈ ds} => key.compare d e) ↔ key.Unstraddled ds := by
  constructor
  · intro order d hd e he f hf hstraddle
    obtain ⟨hde, hef, hdf⟩ := Json.straddle_iff.mp hstraddle
    apply hdf
    cases hdirection : key.direction with
    | ascending =>
      have htrans := order.isLE_trans (a := ⟨d, hd⟩) (b := ⟨e, he⟩) (c := ⟨f, hf⟩)
      simp only [compare_of_ascending _ _ hdirection] at htrans
      exact htrans hde hef
    | descending =>
      -- The other way round the three documents stand in the opposite order.
      have htrans := order.isLE_trans (a := ⟨f, hf⟩) (b := ⟨e, he⟩) (c := ⟨d, hd⟩)
      simp only [compare_of_descending _ _ hdirection] at htrans
      exact htrans hef hde
  · intro h
    refine { eq_swap := key.compare_swap _ _, isLE_trans := ?_ }
    intro d e f hde hef
    cases hdirection : key.direction with
    | ascending =>
      rw [compare_of_ascending _ _ hdirection] at hde hef ⊢
      exact (Json.isLE_sortCompare_iff hde hef).mpr (h d d.2 e e.2 f f.2)
    | descending =>
      rw [compare_of_descending _ _ hdirection] at hde hef ⊢
      exact (Json.isLE_sortCompare_iff hef hde).mpr (h f f.2 e e.2 d d.2)

theorem compareAll_swap (keys : List SortKey) (d e : Document) :
    compareAll keys e d = (compareAll keys d e).swap := by
  induction keys with
  | nil => rfl
  | cons key rest ih => rw [compareAll, compareAll, compare_swap, ih, Ordering.swap_then]

/-- Keys that are not straddled order the documents, the first key first. -/
theorem transCmp_compareAll {keys : List SortKey} (h : ∀ key ∈ keys, key.Unstraddled ds) :
    Std.TransCmp fun d e : {d // d ∈ ds} => compareAll keys d e := by
  induction keys with
  | nil => exact { eq_swap := rfl, isLE_trans := fun _ _ => rfl }
  | cons key rest ih =>
    have hfirst := transCmp_compare_iff.mpr (h key List.mem_cons_self)
    have hrest := ih fun k hk => h k (List.mem_cons_of_mem _ hk)
    exact inferInstanceAs (Std.TransCmp (compareLex
      (fun d e : {d // d ∈ ds} => key.compare d e) fun d e => compareAll rest d e))

end SortKey

/-! ### Sorting -/

namespace Document

theorem perm_insertSorted (order : Document → Document → Ordering) (d : Document)
    (ds : List Document) : (insertSorted order d ds).Perm (d :: ds) := by
  induction ds with
  | nil => exact List.Perm.refl _
  | cons e rest ih =>
    rw [insertSorted]
    split
    · exact (ih.cons e).trans (List.Perm.swap d e rest)
    · exact List.Perm.refl _

/-- Documents inserted one after the other into others stand among these. -/
theorem perm_foldl_insertSorted (order : Document → Document → Ordering)
    (ds sorted : List Document) :
    (ds.foldl (fun sorted d => insertSorted order d sorted) sorted).Perm (ds ++ sorted) := by
  induction ds generalizing sorted with
  | nil => exact List.Perm.refl _
  | cons d rest ih =>
    have hrest := ih (insertSorted order d sorted)
    have hfirst := (perm_insertSorted order d sorted).append_left rest
    exact (hrest.trans hfirst).trans List.perm_middle

theorem perm_sort (keys : List SortKey) (ds : List Document) : (sort keys ds).Perm ds := by
  have hinserted := perm_foldl_insertSorted (SortKey.compareAll keys) ds []
  rw [List.append_nil] at hinserted
  exact (List.reverse_perm _).trans hinserted

/-- Without keys all documents tie, and each is inserted before those that came earlier. -/
theorem sort_nil (ds : List Document) : sort [] ds = ds := by
  have hinserted : ∀ sorted : List Document, ds.foldl
      (fun sorted d => insertSorted (SortKey.compareAll []) d sorted) sorted =
      ds.reverse ++ sorted := by
    induction ds with
    | nil => exact fun _ => rfl
    | cons d rest ih =>
      intro sorted
      have hfirst : insertSorted (SortKey.compareAll []) d sorted = d :: sorted := by
        cases sorted <;> rfl
      rw [List.foldl_cons, hfirst, ih, List.reverse_cons, List.append_assoc]
      rfl
  rw [sort, hinserted, List.append_nil, List.reverse_reverse]

section Order

variable {order : Document → Document → Ordering} {ds : List Document}
  (hswap : ∀ d e, order e d = (order d e).swap)
  (htrans : ∀ d ∈ ds, ∀ e ∈ ds, ∀ f ∈ ds,
    (order d e).isLE = true → (order e f).isLE = true → (order d f).isLE = true)

include hswap htrans

/-- Inserting keeps a list in reverse order, if the order is one among the documents at hand. -/
theorem pairwise_insertSorted {d : Document} (hd : d ∈ ds) {sorted : List Document}
    (hmem : ∀ e ∈ sorted, e ∈ ds)
    (h : sorted.Pairwise fun later earlier => (order earlier later).isLE = true) :
    (insertSorted order d sorted).Pairwise
      fun later earlier => (order earlier later).isLE = true := by
  induction sorted with
  | nil => exact List.pairwise_singleton _ _
  | cons e rest ih =>
    obtain ⟨hfirst, hrest⟩ := List.pairwise_cons.mp h
    obtain ⟨he, hmem'⟩ := List.forall_mem_cons.mp hmem
    rw [insertSorted]
    split
    case isTrue hlt =>
      refine List.pairwise_cons.mpr ⟨fun x hx => ?_, ih hmem' hrest⟩
      obtain rfl | hx := List.mem_cons.mp ((perm_insertSorted order d rest).mem_iff.mp hx)
      · rw [hlt]
        rfl
      · exact hfirst x hx
    case isFalse hnot =>
      have hed : (order e d).isLE = true := by
        rw [hswap d e, Ordering.isLE_swap, Ordering.isGE_iff_ne_lt]
        exact hnot
      refine List.pairwise_cons.mpr ⟨fun x hx => ?_, h⟩
      obtain rfl | hx := List.mem_cons.mp hx
      · exact hed
      · exact htrans x (hmem' x hx) e he d hd (hfirst x hx) hed

/-- Documents inserted one after the other into a list in reverse order. -/
theorem pairwise_foldl_insertSorted {inserted sorted : List Document}
    (hinserted : ∀ d ∈ inserted, d ∈ ds) (hmem : ∀ e ∈ sorted, e ∈ ds)
    (h : sorted.Pairwise fun later earlier => (order earlier later).isLE = true) :
    (inserted.foldl (fun sorted d => insertSorted order d sorted) sorted).Pairwise
      fun later earlier => (order earlier later).isLE = true := by
  induction inserted generalizing sorted with
  | nil => exact h
  | cons d rest ih =>
    obtain ⟨hd, hrest⟩ := List.forall_mem_cons.mp hinserted
    refine ih hrest (fun e he => ?_) (pairwise_insertSorted hswap htrans hd hmem h)
    obtain rfl | he := List.mem_cons.mp ((perm_insertSorted order d sorted).mem_iff.mp he)
    · exact hd
    · exact hmem e he

end Order

/-- Where the keys order the documents, the documents sorted stand in that order. -/
theorem pairwise_sort {keys : List SortKey} {ds : List Document}
    (order : Std.TransCmp fun d e : {d // d ∈ ds} => SortKey.compareAll keys d e) :
    (sort keys ds).Pairwise fun d e => (SortKey.compareAll keys d e).isLE = true := by
  rw [sort, List.pairwise_reverse]
  refine pairwise_foldl_insertSorted (SortKey.compareAll_swap keys) ?_ (fun d hd => hd)
    (List.forall_mem_nil _) List.Pairwise.nil
  intro d hd e he f hf hde hef
  exact order.isLE_trans (a := ⟨d, hd⟩) (b := ⟨e, he⟩) (c := ⟨f, hf⟩) hde hef

/-- Two values compare the other way round in the opposite order.  Three of them compare
transitively unless the second is a double to which the others, whole numbers, are rounded
with the greater one first.  Where there is none between the documents under any of the keys,
the keys order the documents, and after sorting no document is behind a later one. -/
theorem sort_consistent (keys : List SortKey) (ds : List Document) :
    (∀ u v, Json.sortCompare v u = (Json.sortCompare u v).swap) ∧
    (∀ u v w, Json.Straddle u v w ↔ (Json.sortCompare u v).isLE = true ∧
      (Json.sortCompare v w).isLE = true ∧ ¬(Json.sortCompare u w).isLE = true) ∧
    ((∀ key ∈ keys, key.Unstraddled ds) →
      (Std.TransCmp fun d e : {d // d ∈ ds} => SortKey.compareAll keys d e) ∧
      (sort keys ds).Pairwise fun d e => (SortKey.compareAll keys d e).isLE = true) := by
  refine ⟨Json.sortCompare_swap, fun _ _ _ => Json.straddle_iff, fun h => ?_⟩
  have order := SortKey.transCmp_compareAll h
  exact ⟨order, pairwise_sort order⟩

/-- Values of several kinds, a large whole number beside a double of another value, and a
document that has no value at all. -/
theorem sort_consistent_mixed :
    let keys : List SortKey := [{ field := "n", direction := .descending }, { field := "m" }]
    let ds : List Document :=
      [[("n", .num (.int 9007199254740993))], [("n", .str "a"), ("m", .bool true)],
        [("n", .num (.float ⟨false, 0x3ff8000000000000, by decide⟩))], [], [("n", .null)]]
    (∀ key ∈ keys, key.Unstraddled ds) ∧
      (sort keys ds).Pairwise fun d e => (SortKey.compareAll keys d e).isLE = true := by
  intro keys ds
  have hkeys : ∀ key ∈ keys, key.Unstraddled ds := by decide +kernel
  exact ⟨hkeys, ((sort_consistent keys ds).2.2 hkeys).2⟩

/-- The double of `2^53` ties with `2^53 + 1` and with `2^53`.  Standing between them it keeps
the three in the order they came in, with the greatest first. -/
theorem sort_rounded :
    let odd : Json := .num (.int 9007199254740993)
    let rounded : Json := .num (.float ⟨false, 0x4340000000000000, by decide⟩)
    let even : Json := .num (.int 9007199254740992)
    let keys : List SortKey := [{ field := "n" }]
    Json.sortCompare (some odd) (some rounded) = .eq ∧
      Json.sortCompare (some rounded) (some even) = .eq ∧
      Json.sortCompare (some odd) (some even) = .gt ∧
      ¬(sort keys [[("n", odd)], [("n", rounded)], [("n", even)]]).Pairwise
        fun d e => (SortKey.compareAll keys d e).isLE = true := by
  decide +kernel

end Document

end RecordStore
