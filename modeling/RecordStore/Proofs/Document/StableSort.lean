/-
Sorting by several keys at once and by one after the other.

Documents that tie under all keys keep their order, and a list in order is determined by the
order within the ties.  Sorting by the last key, then by the one before it and so on to the
first leaves the documents in order as well, with the same order within the ties: what an
earlier key does not tell apart keeps the order that the later keys gave.  Under keys that
resolve to no doubles the order is that of kinds and, within a kind, of truth values, whole
numbers and texts.

* `Document.filter_sort` — documents that tie keep their order;
* `Document.eq_of_stable` — the order within the ties determines a list that is in order;
* `Document.sort_cons` — sorting by a key after sorting by the others;
* `Json.KindBefore`, `Json.kindBefore_iff` — the order of kinds, and the places they are given;
* `Json.Before`, `SortKey.BeforeAll`, `SortKey.Tie` — the order of values and of documents;
* `Document.sort_stable` — the documents sorted, and the passes key by key.
-/
import RecordStore.Proofs.Document.Sort

namespace RecordStore

/-! ### The order within the ties -/

namespace Document

section Order

variable {order : Document → Document → Ordering} {ds : List Document}

section Inserting

variable (htrans : Std.TransCmp fun d e : {d // d ∈ ds} => order d e) {x : Document} (hx : x ∈ ds)

include htrans hx

/-- Among the documents that tie with `x`, a document is inserted before all others. -/
theorem filter_insertSorted {d : Document} (hd : d ∈ ds) {sorted : List Document}
    (hsorted : ∀ e ∈ sorted, e ∈ ds) :
    (insertSorted order d sorted).filter (fun e => order x e = .eq) =
      (d :: sorted).filter fun e => order x e = .eq := by
  induction sorted with
  | nil => rfl
  | cons e rest ih =>
    obtain ⟨he, hrest⟩ := List.forall_mem_cons.mp hsorted
    rw [insertSorted]
    split
    case isTrue hlt =>
      -- Only one of the two may tie with `x`, so they may change places.
      have hone : ¬(order x d = .eq ∧ order x e = .eq) := by
        rintro ⟨hxd, hxe⟩
        have hde := htrans.congr_left (a := ⟨x, hx⟩) (b := ⟨d, hd⟩) (c := ⟨e, he⟩) hxd
        rw [← hde, hxe] at hlt
        exact absurd hlt (by simp)
      rw [List.filter_cons, ih hrest, List.filter_cons, List.filter_cons, List.filter_cons]
      by_cases hxd : order x d = .eq
      · have hxe : ¬order x e = .eq := fun hxe => hone ⟨hxd, hxe⟩
        simp [hxd, hxe]
      · simp [hxd]
    case isFalse => rfl

theorem filter_foldl_insertSorted {inserted sorted : List Document}
    (hinserted : ∀ d ∈ inserted, d ∈ ds) (hsorted : ∀ e ∈ sorted, e ∈ ds) :
    (inserted.foldl (fun sorted d => insertSorted order d sorted) sorted).filter
        (fun e => order x e = .eq) =
      (inserted.reverse ++ sorted).filter fun e => order x e = .eq := by
  induction inserted generalizing sorted with
  | nil => rfl
  | cons d rest ih =>
    obtain ⟨hd, hrest⟩ := List.forall_mem_cons.mp hinserted
    have hmem : ∀ e ∈ insertSorted order d sorted, e ∈ ds := by
      intro e he
      rcases List.mem_cons.mp ((perm_insertSorted order d sorted).mem_iff.mp he) with rfl | he
      · exact hd
      · exact hsorted e he
    rw [List.foldl_cons, ih hrest hmem, List.filter_append,
      filter_insertSorted htrans hx hd hsorted, ← List.filter_append, List.reverse_cons,
      List.append_assoc, List.singleton_append]

end Inserting

/-- In a list in order the first document is behind no other one. -/
theorem isLE_head (hswap : ∀ d e, order e d = (order d e).swap) {d : Document}
    {rest : List Document} (h : (d :: rest).Pairwise fun d e => (order d e).isLE = true)
    {e : Document} (he : e ∈ d :: rest) : (order d e).isLE = true := by
  rcases List.mem_cons.mp he with rfl | he
  · rw [Ordering.eq_eq_of_eq_swap (hswap e e)]
    rfl
  · exact (List.pairwise_cons.mp h).1 e he

/-- Two lists of the same documents in order are equal if the documents that tie stand in the
same order in both. -/
theorem eq_of_stable (hswap : ∀ d e, order e d = (order d e).swap) {sorted sorted' : List Document}
    (hperm : sorted.Perm sorted') (h : sorted.Pairwise fun d e => (order d e).isLE = true)
    (h' : sorted'.Pairwise fun d e => (order d e).isLE = true)
    (hties : ∀ x ∈ sorted, sorted.filter (fun e => order x e = .eq) =
      sorted'.filter fun e => order x e = .eq) : sorted = sorted' := by
  have hself : ∀ d, order d d = .eq := fun d => Ordering.eq_eq_of_eq_swap (hswap d d)
  induction sorted generalizing sorted' with
  | nil => exact hperm.nil_eq
  | cons d rest ih =>
    cases sorted' with
    | nil => exact absurd hperm.length_eq (by simp)
    | cons e rest' =>
      -- Neither of the two first documents is behind the other, and so they are the same.
      have hde : (order d e).isLE = true :=
        isLE_head hswap h (hperm.mem_iff.mpr List.mem_cons_self)
      have hed : (order e d).isLE = true :=
        isLE_head hswap h' (hperm.mem_iff.mp List.mem_cons_self)
      rw [hswap d e, Ordering.isLE_swap] at hed
      have htie : order d e = .eq := Ordering.eq_eq_of_isLE_of_isGE hde hed
      have hfirst := hties d List.mem_cons_self
      rw [List.filter_cons_of_pos (by simp [hself]), List.filter_cons_of_pos (by simp [htie])]
        at hfirst
      obtain ⟨rfl, -⟩ := List.cons.inj hfirst
      refine congrArg (List.cons d) (ih hperm.cons_inv h.of_cons h'.of_cons fun x hx => ?_)
      have hx' := hties x (List.mem_cons_of_mem _ hx)
      rw [List.filter_cons, List.filter_cons] at hx'
      split at hx'
      · exact (List.cons.inj hx').2
      · exact hx'

end Order

/-! ### Passes -/

variable {ds : List Document}

theorem filter_sort {keys : List SortKey}
    (htrans : Std.TransCmp fun d e : {d // d ∈ ds} => SortKey.compareAll keys d e) {x : Document}
    (hx : x ∈ ds) :
    (sort keys ds).filter (fun e => SortKey.compareAll keys x e = .eq) =
      ds.filter fun e => SortKey.compareAll keys x e = .eq := by
  rw [sort, List.filter_reverse,
    filter_foldl_insertSorted htrans hx (fun d hd => hd) (List.forall_mem_nil _), List.append_nil,
    List.filter_reverse, List.reverse_reverse]

/-- Documents that tie under all keys are those that tie under the first one and under the
others. -/
theorem filter_compareAll_cons (key : SortKey) (rest : List SortKey) (x : Document)
    (l : List Document) :
    l.filter (fun e => SortKey.compareAll (key :: rest) x e = .eq) =
      (l.filter fun e => SortKey.compareAll [key] x e = .eq).filter
        fun e => SortKey.compareAll rest x e = .eq := by
  rw [List.filter_filter]
  refine List.filter_congr fun e _ => ?_
  simp only [SortKey.compareAll, Ordering.then_eq, Ordering.then_eq_eq, Bool.decide_and]
  exact Bool.and_comm _ _

section Passes

variable {key : SortKey} {rest : List SortKey} (h : ∀ k ∈ key :: rest, k.Unstraddled ds)

include h

theorem transCmp_compareAll_rest :
    Std.TransCmp fun d e : {d // d ∈ ds} => SortKey.compareAll rest d e :=
  SortKey.transCmp_compareAll fun k hk => h k (List.mem_cons_of_mem _ hk)

theorem transCmp_sort :
    Std.TransCmp fun d e : {d // d ∈ sort rest ds} => SortKey.compareAll [key] d e := by
  refine SortKey.transCmp_compareAll fun k hk d hd e he f hf => ?_
  obtain rfl := List.mem_singleton.mp hk
  have hmem : ∀ x ∈ sort rest ds, x ∈ ds := fun x hx => (perm_sort rest ds).mem_iff.mp hx
  exact h k List.mem_cons_self d (hmem d hd) e (hmem e he) f (hmem f hf)

/-- What the first key does not tell apart is left as the other keys ordered it. -/
theorem pairwise_sort_sort :
    (sort [key] (sort rest ds)).Pairwise
      fun d e => (SortKey.compareAll (key :: rest) d e).isLE = true := by
  rw [List.pairwise_iff_forall_sublist]
  intro d e hsub
  have hfirst := List.pairwise_iff_forall_sublist.mp (pairwise_sort (transCmp_sort h)) hsub
  rw [SortKey.compareAll, SortKey.compareAll, Ordering.then_eq] at hfirst
  rw [SortKey.compareAll]
  cases hde : key.compare d e with
  | lt => rfl
  | gt => exact absurd hfirst (by simp [hde])
  | eq =>
    have hd : d ∈ sort rest ds := (perm_sort [key] _).mem_iff.mp (hsub.subset (by simp))
    have hself : key.compare d d = .eq := Ordering.eq_eq_of_eq_swap (key.compare_swap d d)
    have hties := hsub.filter fun f => SortKey.compareAll [key] d f = .eq
    rw [filter_sort (transCmp_sort h) hd, List.filter_eq_self.mpr (by
      simp [SortKey.compareAll, hself, hde])] at hties
    have hothers := pairwise_sort (transCmp_compareAll_rest h)
    exact List.pairwise_iff_forall_sublist.mp hothers (hties.trans List.filter_sublist)

/-- Sorting by several keys is sorting by all but the first and then by the first. -/
theorem sort_cons : sort (key :: rest) ds = sort [key] (sort rest ds) := by
  have hall := SortKey.transCmp_compareAll h
  have hperm : (sort [key] (sort rest ds)).Perm ds := (perm_sort _ _).trans (perm_sort _ _)
  refine eq_of_stable (SortKey.compareAll_swap _) ((perm_sort _ _).trans hperm.symm)
    (pairwise_sort hall) (pairwise_sort_sort h) fun x hx => ?_
  have hx' : x ∈ ds := (perm_sort _ _).mem_iff.mp hx
  have hx'' : x ∈ sort rest ds := (perm_sort _ _).mem_iff.mpr hx'
  have hcomm : ∀ (p q : Document → Bool) (l : List Document),
      (l.filter p).filter q = (l.filter q).filter p := by
    intro p q l
    simp only [List.filter_filter, Bool.and_comm]
  calc (sort (key :: rest) ds).filter (fun e => SortKey.compareAll (key :: rest) x e = .eq)
      = ds.filter fun e => SortKey.compareAll (key :: rest) x e = .eq := filter_sort hall hx'
    _ = (ds.filter fun e => SortKey.compareAll rest x e = .eq).filter
          fun e => SortKey.compareAll [key] x e = .eq := by
        rw [filter_compareAll_cons, hcomm]
    _ = ((sort rest ds).filter fun e => SortKey.compareAll [key] x e = .eq).filter
          fun e => SortKey.compareAll rest x e = .eq := by
        rw [← filter_sort (transCmp_compareAll_rest h) hx', hcomm]
    _ = (sort [key] (sort rest ds)).filter
          fun e => SortKey.compareAll (key :: rest) x e = .eq := by
        rw [filter_compareAll_cons key rest x (sort [key] _), filter_sort (transCmp_sort h) hx'']

end Passes

/-- Sorting by several keys is sorting by each of them, the last one first. -/
theorem sort_eq_foldr {keys : List SortKey} (h : ∀ k ∈ keys, k.Unstraddled ds) :
    sort keys ds = keys.foldr (fun key sorted => sort [key] sorted) ds := by
  induction keys with
  | nil => exact sort_nil ds
  | cons key rest ih =>
    rw [sort_cons h, ih fun k hk => h k (List.mem_cons_of_mem _ hk), List.foldr_cons]

end Document

/-! ### The order without doubles -/

/-- Whole numbers in their order. -/
def Number.Before : Number → Number → Prop
  | .int m _, .int n _ => m < n
  | _, _ => False

instance : ∀ m n : Number, Decidable (m.Before n)
  | .int m _, .int n _ => inferInstanceAs (Decidable (m < n))
  | .float _, _ => .isFalse id
  | .int _ _, .float _ => .isFalse id

namespace Json

/-- A value, if there is one, that is no double. -/
def IsExact : Option Json → Prop
  | some (.num (.float _)) => False
  | _ => True

/-- A value stands before another one of its kind: `false` before `true`, and whole numbers
and texts in their order. -/
def BeforeAlike : Json → Json → Prop
  | .bool a, .bool b => a = false ∧ b = true
  | .num m, .num n => m.Before n
  | .str s, .str t => s < t
  | _, _ => False

/-- The kinds of values in their order: null, truth values, numbers, texts, arrays, objects. -/
def KindBefore : Json → Json → Prop
  | .null, .bool _ | .null, .num _ | .null, .str _ | .null, .arr _ | .null, .obj _ => True
  | .bool _, .num _ | .bool _, .str _ | .bool _, .arr _ | .bool _, .obj _ => True
  | .num _, .str _ | .num _, .arr _ | .num _, .obj _ => True
  | .str _, .arr _ | .str _, .obj _ => True
  | .arr _, .obj _ => True
  | _, _ => False

/-- A missing value stands before all others, and these stand in the order of their kinds. -/
def Before : Option Json → Option Json → Prop
  | none, some _ => True
  | some v, some w => v.KindBefore w ∨ v.BeforeAlike w
  | _, none => False

/-- The places of the kinds are in the order of the kinds. -/
theorem kindBefore_iff {v w : Json} : v.KindBefore w ↔ v.kindRank < w.kindRank := by
  cases v <;> cases w <;> simp [KindBefore, kindRank]

instance : ∀ v : Option Json, Decidable (IsExact v)
  | some (.num (.float _)) => .isFalse id
  | some (.num (.int _ _)) | some .null | some (.bool _) | some (.str _) | some (.arr _)
  | some (.obj _) | none => .isTrue trivial

instance (v w : Json) : Decidable (BeforeAlike v w) := by
  unfold BeforeAlike
  split <;> infer_instance

instance (v w : Json) : Decidable (KindBefore v w) := decidable_of_iff _ kindBefore_iff.symm

instance : ∀ v w : Option Json, Decidable (Before v w)
  | none, some _ => .isTrue trivial
  | some _, some _ => inferInstanceAs (Decidable (_ ∨ _))
  | none, none | some _, none => .isFalse id

theorem kindRank_eq_of_beforeAlike {v w : Json} (h : v.BeforeAlike w) :
    v.kindRank = w.kindRank := by
  cases v with
  | bool a =>
    cases w with
    | bool b => rfl
    | _ => exact h.elim
  | num m =>
    cases w with
    | num n => rfl
    | _ => exact h.elim
  | str s =>
    cases w with
    | str t => rfl
    | _ => exact h.elim
  | _ => exact h.elim

theorem compareAlike_eq_lt_iff {v w : Json} (hv : IsExact (some v)) (hw : IsExact (some w)) :
    compareAlike v w = .lt ↔ v.BeforeAlike w := by
  cases v with
  | bool a =>
    cases w with
    | bool b => cases a <;> cases b <;> decide
    | _ => exact iff_of_false (by simp [compareAlike]) id
  | num m =>
    cases w with
    | num n =>
      cases m with
      | float x => exact hv.elim
      | int m hm =>
        cases n with
        | float y => exact hw.elim
        | int n hn =>
          rw [compareAlike, Number.sortCompare_int]
          exact compare_lt_iff_lt
    | _ => exact iff_of_false (by simp [compareAlike]) id
  | str s =>
    cases w with
    | str t => exact compareOfLessAndEq_eq_lt
    | _ => exact iff_of_false (by simp [compareAlike]) id
  | _ => exact iff_of_false (by simp [compareAlike]) id

theorem sortCompare_eq_lt_iff {v w : Option Json} (hv : IsExact v) (hw : IsExact w) :
    sortCompare v w = .lt ↔ Before v w := by
  match v, w with
  | none, none => exact iff_of_false (by simp [sortCompare]) id
  | none, some _ => exact iff_of_true rfl trivial
  | some _, none => exact iff_of_false (by simp [sortCompare]) id
  | some v, some w =>
    rw [sortCompare_some, Ordering.then_eq_lt, compareAlike_eq_lt_iff hv hw, Before,
      kindBefore_iff, compare_lt_iff_lt, compare_eq_iff_eq]
    constructor
    · exact Or.imp_right And.right
    · exact Or.imp_right fun h => ⟨kindRank_eq_of_beforeAlike h, h⟩

/-- No double stands between two values if the one between them is none. -/
theorem not_straddle_of_isExact {u v w : Option Json} (hv : IsExact v) : ¬Straddle u v w := by
  intro h
  match u, v, w, h with
  | some (.num k), some (.num m), some (.num n), h =>
    cases k with
    | float x => exact h.elim
    | int k hk =>
      cases m with
      | int m hm => exact h.elim
      | float y => exact hv.elim

end Json

namespace SortKey

/-- A document stands before another one under a key, in the direction of the key. -/
def Before (key : SortKey) (d e : Document) : Prop :=
  match key.direction with
  | .ascending => Json.Before (d.resolve? key.field) (e.resolve? key.field)
  | .descending => Json.Before (e.resolve? key.field) (d.resolve? key.field)

/-- A document stands before another one under several keys: the first key that tells the two
apart decides. -/
def BeforeAll : List SortKey → Document → Document → Prop
  | [], _, _ => False
  | key :: rest, d, e => key.Before d e ∨ ¬key.Before e d ∧ BeforeAll rest d e

/-- Two documents that no key tells apart. -/
def Tie (keys : List SortKey) (d e : Document) : Prop :=
  ∀ key ∈ keys, ¬key.Before d e ∧ ¬key.Before e d

/-- The numbers that the keys resolve to in these documents are whole. -/
def Exact (keys : List SortKey) (ds : List Document) : Prop :=
  ∀ key ∈ keys, ∀ d ∈ ds, Json.IsExact (d.resolve? key.field)

instance (key : SortKey) (d e : Document) : Decidable (key.Before d e) := by
  unfold Before
  split <;> infer_instance

instance (keys : List SortKey) (ds : List Document) : Decidable (Exact keys ds) :=
  inferInstanceAs (Decidable (∀ key ∈ keys, ∀ d ∈ ds, _))

instance (keys : List SortKey) (d e : Document) : Decidable (Tie keys d e) :=
  inferInstanceAs (Decidable (∀ key ∈ keys, _ ∧ _))

section Exact

variable {keys : List SortKey} {ds : List Document} (h : Exact keys ds)

include h

theorem Exact.unstraddled : ∀ key ∈ keys, key.Unstraddled ds :=
  fun key hkey _ _ e he _ _ => Json.not_straddle_of_isExact (h key hkey e he)

section Pair

variable {d e : Document} (hd : d ∈ ds) (he : e ∈ ds)

include hd he

theorem compare_eq_lt_iff {key : SortKey} (hkey : key ∈ keys) :
    key.compare d e = .lt ↔ key.Before d e := by
  rw [Before]
  cases hdirection : key.direction with
  | ascending =>
    rw [compare_of_ascending d e hdirection]
    exact Json.sortCompare_eq_lt_iff (h key hkey d hd) (h key hkey e he)
  | descending =>
    rw [compare_of_descending d e hdirection]
    exact Json.sortCompare_eq_lt_iff (h key hkey e he) (h key hkey d hd)

theorem compare_eq_eq_iff {key : SortKey} (hkey : key ∈ keys) :
    key.compare d e = .eq ↔ ¬key.Before d e ∧ ¬key.Before e d := by
  rw [← compare_eq_lt_iff h hd he hkey, ← compare_eq_lt_iff h he hd hkey, compare_swap key d e]
  cases key.compare d e <;> decide

theorem compareAll_eq_lt_iff : compareAll keys d e = .lt ↔ BeforeAll keys d e := by
  induction keys with
  | nil => exact iff_of_false (by simp [compareAll]) id
  | cons key rest ih =>
    rw [compareAll, Ordering.then_eq_lt, ih fun k hk => h k (List.mem_cons_of_mem _ hk),
      compare_eq_lt_iff h hd he List.mem_cons_self, compare_eq_eq_iff h hd he List.mem_cons_self,
      BeforeAll]
    by_cases hbefore : key.Before d e <;> simp [hbefore]

theorem compareAll_eq_eq_iff : compareAll keys d e = .eq ↔ Tie keys d e := by
  induction keys with
  | nil => exact iff_of_true rfl (List.forall_mem_nil _)
  | cons key rest ih =>
    rw [compareAll, Ordering.then_eq_eq, ih fun k hk => h k (List.mem_cons_of_mem _ hk),
      compare_eq_eq_iff h hd he List.mem_cons_self, Tie, Tie, List.forall_mem_cons]

/-- Of two documents in order the second one does not stand before the first. -/
theorem isLE_compareAll_iff : (compareAll keys d e).isLE = true ↔ ¬BeforeAll keys e d := by
  rw [← compareAll_eq_lt_iff h he hd, compareAll_swap keys d e]
  cases compareAll keys d e <;> decide

end Pair

end Exact

end SortKey

namespace Document

/-- Under keys that resolve to no doubles, sorting only changes places, no document comes
behind one that it stands before, documents that tie keep their order, and sorting by each key
alone, from the last one to the first, gives the same. -/
theorem sort_stable (keys : List SortKey) (ds : List Document) (h : SortKey.Exact keys ds) :
    (sort keys ds).Perm ds ∧
    (sort keys ds).Pairwise (fun d e => ¬SortKey.BeforeAll keys e d) ∧
    (∀ d ∈ ds, (sort keys ds).filter (fun e => SortKey.Tie keys d e) =
      ds.filter fun e => SortKey.Tie keys d e) ∧
    sort keys ds = keys.foldr (fun key sorted => sort [key] sorted) ds := by
  have htrans := SortKey.transCmp_compareAll h.unstraddled
  have hmem : ∀ {d}, d ∈ sort keys ds → d ∈ ds := (perm_sort keys ds).mem_iff.mp
  refine ⟨perm_sort keys ds, ?_, ?_, sort_eq_foldr h.unstraddled⟩
  · refine (pairwise_sort htrans).imp_of_mem fun hd he hle => ?_
    exact (SortKey.isLE_compareAll_iff h (hmem hd) (hmem he)).mp hle
  · intro d hd
    have hties : ∀ e ∈ ds, decide (SortKey.Tie keys d e) =
        decide (SortKey.compareAll keys d e = .eq) := fun e he =>
      decide_eq_decide.mpr (SortKey.compareAll_eq_eq_iff h hd he).symm
    rw [List.filter_congr hties, List.filter_congr fun e he => hties e (hmem he)]
    exact filter_sort htrans hd

/-- Values of all kinds, the latest kind first: among them three arrays, which tie, whole numbers
that one double stands for, and a document that has no value at all. -/
theorem sort_stable_descending :
    let n : SortKey := { field := "n", direction := .descending }
    let m : SortKey := { field := "m" }
    let ds : List Document :=
      [[("m", .str "b"), ("n", .arr [])], [("n", .bool false)], [], [("n", .str "x")],
        [("n", .num (.int 9007199254740992))], [("n", .num (.int 9007199254740993))],
        [("m", .str "b"), ("n", .arr [.null])], [("n", .null)],
        [("m", .str "a"), ("n", .arr [.null])], [("n", .obj [])]]
    SortKey.Exact [n, m] ds ∧
      (sort [n, m] ds).Pairwise (fun d e => ¬SortKey.BeforeAll [n, m] e d) ∧
      sort [n, m] ds = sort [n] (sort [m] ds) ∧
      sort [n, m] ds =
        [[("n", .obj [])], [("m", .str "a"), ("n", .arr [.null])],
          [("m", .str "b"), ("n", .arr [])], [("m", .str "b"), ("n", .arr [.null])],
          [("n", .str "x")], [("n", .num (.int 9007199254740993))],
          [("n", .num (.int 9007199254740992))], [("n", .bool false)], [("n", .null)], []] := by
  intro n m ds
  have hexact : SortKey.Exact [n, m] ds := by decide +kernel
  have hstable := sort_stable [n, m] ds hexact
  rw [List.foldr_cons, List.foldr_cons, List.foldr_nil] at hstable
  refine ⟨hexact, hstable.2.1, hstable.2.2.2, ?_⟩
  cbv

end Document

end RecordStore
