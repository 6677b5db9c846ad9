/-
Looking up keys in entries that are put together.

A lookup takes the first pair of a key and a series of insertions keeps the last
one, so what is found after `insertAll` is what a lookup finds in the pairs read
backwards.  Where every key stands once the direction is of no account.

* `Entries.get?_insertAll` — what is found after a series of insertions;
* `Entries.get?_filter` — what is found where only some keys are kept;
* `Entries.get?_of_mem` — where keys stand once, a pair that is there is found;
* `Entries.contains_iff_mem_keys` — a key is contained if it is one of the keys;
* `Entries.Sorted.eq_of_get?` — entries in order are the same if all lookups are;
* `Entries.perm_ofList` — the entries of pairs with keys that differ are just these pairs;
* `Entries.put`, `Entries.Sorted.put_eq_iff` — one key written or taken out.
-/
import Mathlib.Data.List.Nodup
import RecordStore.Entries

namespace RecordStore.Entries

variable {α : Type}

/-! ### Keys -/

theorem contains_iff_mem_keys {d : Entries α} {key : String} :
    d.contains key = true ↔ key ∈ d.keys := by
  induction d with
  | nil => simp [contains, keys]
  | cons entry rest ih =>
    obtain ⟨k, v⟩ := entry
    rw [contains, get?_cons, keys, List.map_cons, List.mem_cons]
    by_cases h : k = key
    · rw [if_pos h]
      exact iff_of_true rfl (Or.inl h.symm)
    · rw [if_neg h, ← keys, ← ih, contains]
      exact ⟨Or.inr, fun hmem => hmem.resolve_left fun e => h e.symm⟩

theorem get?_eq_none_iff {d : Entries α} {key : String} :
    d.get? key = none ↔ key ∉ d.keys := by
  rw [← contains_iff_mem_keys, contains]
  cases d.get? key <;> simp

theorem mem_of_get? {d : Entries α} {key : String} {v : α} (h : d.get? key = some v) :
    (key, v) ∈ d := by
  induction d with
  | nil => exact absurd h (by simp)
  | cons entry rest ih =>
    obtain ⟨k, w⟩ := entry
    rw [get?_cons] at h
    by_cases hk : k = key
    · rw [if_pos hk, Option.some_inj] at h
      subst hk h
      exact List.mem_cons_self
    · rw [if_neg hk] at h
      exact List.mem_cons_of_mem _ (ih h)

theorem get?_of_mem {d : Entries α} (nodup : d.keys.Nodup) {key : String} {v : α}
    (h : (key, v) ∈ d) : d.get? key = some v := by
  induction d with
  | nil => exact absurd h List.not_mem_nil
  | cons entry rest ih =>
    obtain ⟨k, w⟩ := entry
    rw [keys, List.map_cons, List.nodup_cons] at nodup
    rw [get?_cons]
    rcases List.mem_cons.mp h with heq | hrest
    · obtain ⟨rfl, rfl⟩ := Prod.mk.inj heq
      exact if_pos rfl
    · have hne : k ≠ key := by
        rintro rfl
        exact nodup.1 (List.mem_map.mpr ⟨_, hrest, rfl⟩)
      rw [if_neg hne]
      exact ih nodup.2 hrest

theorem Sorted.nodup_keys {d : Entries α} (h : Sorted d) : d.keys.Nodup := by
  refine List.pairwise_map.mpr (List.Pairwise.imp ?_ h)
  intro p q hlt heq
  rw [heq] at hlt
  exact String.lt_irrefl _ hlt

/-- Entries in the order of their keys are determined by what is found under each key. -/
theorem Sorted.eq_of_get? {d e : Entries α} (hd : Sorted d) (he : Sorted e)
    (h : ∀ key, d.get? key = e.get? key) : d = e := by
  have hmem : ∀ p, p ∈ d ↔ p ∈ e := by
    rintro ⟨key, v⟩
    constructor
    · intro hp
      exact mem_of_get? ((h key).symm.trans (get?_of_mem hd.nodup_keys hp))
    · intro hp
      exact mem_of_get? ((h key).trans (get?_of_mem he.nodup_keys hp))
  have hperm : d.Perm e :=
    (List.perm_ext_iff_of_nodup hd.nodup_keys.of_map he.nodup_keys.of_map).mpr hmem
  refine hperm.eq_of_pairwise ?_ hd he
  intro p q _ _ hlt hlt'
  exact absurd (String.lt_trans hlt hlt') (String.lt_irrefl _)

/-- Of two values put under one key the later one stays. -/
theorem insert_insert (d : Entries α) (key : String) (v w : α) :
    (d.insert key v).insert key w = d.insert key w := by
  induction d with
  | nil => simp [insert]
  | cons entry rest ih =>
    obtain ⟨k, u⟩ := entry
    by_cases hk : k = key
    · simp only [insert, if_pos hk, if_true]
    · by_cases hlt : key < k
      · simp only [insert, if_neg hk, if_pos hlt, if_true]
      · simp only [insert, if_neg hk, if_neg hlt, ih]

theorem keys_mapValues {β : Type} (f : α → β) (d : Entries α) : (d.mapValues f).keys = d.keys :=
  List.map_map

/-- A change that leaves every value alone leaves the entries alone. -/
theorem mapValues_eq_self {f : α → α} {d : Entries α} (h : ∀ p ∈ d, f p.2 = p.2) :
    d.mapValues f = d := by
  have hpairs : ∀ p ∈ d, (p.1, f p.2) = p := by
    intro p hp
    rw [h p hp]
  rw [mapValues, List.map_congr_left hpairs, List.map_id']

/-! ### Lookup in a list put together -/

theorem get?_append (d e : Entries α) (key : String) :
    get? (d ++ e) key = (get? d key).or (get? e key) := by
  induction d with
  | nil => rfl
  | cons entry rest ih =>
    obtain ⟨k, v⟩ := entry
    rw [List.cons_append, get?_cons, get?_cons, ih]
    by_cases h : k = key
    · rw [if_pos h, if_pos h, Option.some_or]
    · rw [if_neg h, if_neg h]

/-- Which pairs are kept is a matter of their keys, so a key loses all of its pairs or none. -/
theorem get?_filter (d : Entries α) (keep : String → Bool) (key : String) :
    get? (d.filter fun p => keep p.1) key = if keep key then get? d key else none := by
  induction d with
  | nil => simp
  | cons entry rest ih =>
    obtain ⟨k, v⟩ := entry
    rw [List.filter_cons, get?_cons]
    by_cases hk : k = key
    · subst hk
      rw [if_pos rfl]
      split
      · rw [get?_cons, if_pos rfl]
      · rename_i hkeep
        rw [ih, if_neg hkeep]
    · rw [if_neg hk, ← ih]
      split
      · rw [get?_cons, if_neg hk]
      · rfl

/-- After a series of insertions the last pair of a key counts. -/
theorem get?_insertAll (d : Entries α) (pairs : List (String × α)) (key : String) :
    get? (insertAll d pairs) key = (get? pairs.reverse key).or (get? d key) := by
  induction pairs generalizing d with
  | nil => rfl
  | cons p rest ih =>
    obtain ⟨k, v⟩ := p
    rw [show insertAll d ((k, v) :: rest) = insertAll (insert d k v) rest from rfl, ih,
      List.reverse_cons, get?_append, Option.or_assoc, get?_insert, get?_cons, get?_nil]
    by_cases h : k = key
    · rw [if_pos h, if_pos h, Option.some_or]
    · rw [if_neg h, if_neg h, Option.none_or]

theorem mem_keys_insertAll {d : Entries α} {pairs : List (String × α)} {key : String} :
    key ∈ (insertAll d pairs).keys ↔ key ∈ keys pairs ∨ key ∈ d.keys := by
  rw [← not_iff_not, not_or, ← get?_eq_none_iff, get?_insertAll, Option.or_eq_none_iff,
    get?_eq_none_iff, get?_eq_none_iff, keys, List.map_reverse, List.mem_reverse, ← keys]

/-- The pairs given last count in the entries of a list of pairs. -/
theorem get?_ofList (pairs : List (String × α)) (key : String) :
    get? (ofList pairs) key = get? pairs.reverse key := by
  rw [ofList, get?_insertAll, get?_nil, Option.or_none]

/-- A key that is missing is missing in either direction of reading. -/
theorem get?_reverse_eq_none_iff {d : Entries α} {key : String} :
    get? d.reverse key = none ↔ d.contains key = false := by
  rw [get?_eq_none_iff, keys, List.map_reverse, List.mem_reverse, ← keys,
    ← contains_iff_mem_keys, Bool.not_eq_true]

theorem get?_reverse {d : Entries α} (nodup : d.keys.Nodup) (key : String) :
    get? d.reverse key = get? d key := by
  have hreverse : (Entries.keys d.reverse).Nodup := by
    rw [keys, List.map_reverse]
    exact List.nodup_reverse.mpr nodup
  cases h : get? d key with
  | none =>
    rw [get?_eq_none_iff] at h ⊢
    rwa [keys, List.map_reverse, List.mem_reverse]
  | some v => exact get?_of_mem hreverse (List.mem_reverse.mpr (mem_of_get? h))

theorem get?_ofList_reverse (pairs : List (String × α)) (key : String) :
    get? (ofList pairs).reverse key = get? pairs.reverse key := by
  rw [get?_reverse (sorted_ofList pairs).nodup_keys, get?_ofList]

/-- A pair of the entries after a series of insertions is one of those inserted or
an old one. -/
theorem mem_insertAll {d : Entries α} {pairs : List (String × α)} {p : String × α}
    (h : p ∈ insertAll d pairs) : p ∈ pairs ∨ p ∈ d := by
  induction pairs generalizing d with
  | nil => exact Or.inr h
  | cons q rest ih =>
    rcases ih h with hrest | hinsert
    · exact Or.inl (List.mem_cons_of_mem _ hrest)
    · rcases mem_insert hinsert with rfl | hold
      · exact Or.inl List.mem_cons_self
      · exact Or.inr hold

theorem mem_of_mem_ofList {pairs : List (String × α)} {p : String × α}
    (h : p ∈ ofList pairs) : p ∈ pairs :=
  (mem_insertAll h).resolve_right List.not_mem_nil

/-! ### Pairs put in their order -/

theorem perm_insert {d : Entries α} {key : String} (h : key ∉ d.keys) (value : α) :
    (d.insert key value).Perm ((key, value) :: d) := by
  induction d with
  | nil => exact List.Perm.refl _
  | cons entry rest ih =>
    obtain ⟨k, v⟩ := entry
    rw [keys, List.map_cons, List.mem_cons, not_or] at h
    obtain ⟨hne, hrest⟩ := h
    rw [insert, if_neg fun heq => hne heq.symm]
    split
    · exact List.Perm.refl _
    · exact ((ih hrest).cons (k, v)).trans (List.Perm.swap _ _ rest)

/-- A series of insertions under keys that are all new only puts the pairs in their places. -/
theorem perm_insertAll {d : Entries α} {pairs : List (String × α)}
    (h : (keys (pairs ++ d)).Nodup) : (insertAll d pairs).Perm (pairs ++ d) := by
  induction pairs generalizing d with
  | nil => exact List.Perm.refl _
  | cons p rest ih =>
    obtain ⟨k, v⟩ := p
    have hmiddle : (rest ++ (k, v) :: d).Perm ((k, v) :: (rest ++ d)) := List.perm_middle
    have hnew : k ∉ d.keys := by
      rw [List.cons_append, keys, List.map_cons, List.nodup_cons, List.map_append,
        List.mem_append] at h
      exact fun hmem => h.1 (Or.inr hmem)
    have hinserted : (rest ++ insert d k v).Perm ((k, v) :: (rest ++ d)) :=
      ((perm_insert hnew v).append_left rest).trans hmiddle
    have hrest : (keys (rest ++ insert d k v)).Nodup := (hinserted.map _).nodup_iff.mpr h
    exact (ih hrest).trans hinserted

theorem perm_ofList {pairs : List (String × α)} (h : (keys pairs).Nodup) :
    (ofList pairs).Perm pairs := by
  have hall : (ofList pairs).Perm (pairs ++ []) := perm_insertAll (by rwa [List.append_nil])
  rwa [List.append_nil] at hall

/-! ### Writing a key or taking it out -/

/-- Writes a value under a key, or takes the key out where there is none. -/
def put (d : Entries α) (key : String) : Option α → Entries α
  | some v => d.insert key v
  | none => d.erase key

theorem get?_put (d : Entries α) (key key' : String) (v : Option α) :
    (d.put key v).get? key' = if key = key' then v else d.get? key' := by
  cases v with
  | none => exact get?_erase d key key'
  | some v => exact get?_insert d key key' v

theorem Sorted.put {d : Entries α} (h : Sorted d) (key : String) (v : Option α) :
    Sorted (d.put key v) := by
  cases v with
  | none => exact h.erase key
  | some v => exact h.insert key v

/-- A key that is missing need not be taken out. -/
theorem erase_of_missing {d : Entries α} {key : String} (h : d.get? key = none) :
    d.erase key = d := by
  refine List.filter_eq_self.mpr fun p hp => decide_eq_true ?_
  rintro rfl
  exact get?_eq_none_iff.mp h (List.mem_map_of_mem hp)

/-- Entries in order in which one key is changed. -/
theorem Sorted.put_eq_iff {d d' : Entries α} (hd : Sorted d) {key : String} {v : Option α} :
    d.put key v = d' ↔
      Sorted d' ∧ d'.get? key = v ∧ ∀ other, other ≠ key → d'.get? other = d.get? other := by
  constructor
  · rintro rfl
    refine ⟨hd.put key v, ?_, fun other hne => ?_⟩
    · rw [get?_put, if_pos rfl]
    · rw [get?_put, if_neg (Ne.symm hne)]
  · rintro ⟨hd', hkey, hother⟩
    refine (hd.put key v).eq_of_get? hd' fun other => ?_
    rw [get?_put]
    split
    · rename_i heq
      rw [← heq, hkey]
    · rename_i hne
      exact (hother other (Ne.symm hne)).symm

end RecordStore.Entries
