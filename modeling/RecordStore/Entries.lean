/-
Entries: values under text keys, in the order of the keys.

An `Entries α` is a list of pairs.  `Entries.Sorted` says that the keys ascend,
so that each stands once; `insert` and `erase` keep that order, and lookup after
either is as expected on every list, sorted or not.

* `Entries.get?_insert` — what is found after an insertion;
* `Entries.get?_erase` — what is found after an erasure;
* `Entries.Sorted.insert`, `Entries.Sorted.erase` — the order is kept.
-/

namespace RecordStore

/-- Values under text keys; the keys ascend. -/
abbrev Entries (α : Type) := List (String × α)

namespace Entries

variable {α : Type}

/-- Keys ascend, so none stands twice. -/
def Sorted (d : Entries α) : Prop := d.Pairwise (·.1 < ·.1)

/-- The value under a key. -/
def get? : Entries α → String → Option α
  | [], _ => none
  | (k, v) :: rest, key => if k = key then some v else get? rest key

def contains (d : Entries α) (key : String) : Bool := (get? d key).isSome

def keys (d : Entries α) : List String := d.map (·.1)

/-- Puts a value under a key, in place of a value that stood there. -/
def insert (d : Entries α) (key : String) (value : α) : Entries α :=
  match d with
  | [] => [(key, value)]
  | (k, v) :: rest =>
    if k = key then (key, value) :: rest
    else if key < k then (key, value) :: (k, v) :: rest
    else (k, v) :: insert rest key value

/-- Takes a key out. -/
def erase (d : Entries α) (key : String) : Entries α := d.filter (·.1 ≠ key)

/-- Inserts pairs one after the other: a repeated key keeps its last value. -/
def insertAll (d : Entries α) (pairs : List (String × α)) : Entries α :=
  pairs.foldl (fun d p => insert d p.1 p.2) d

/-- The entries with these pairs. -/
def ofList (pairs : List (String × α)) : Entries α := insertAll [] pairs

/-- Changes every value and keeps the keys. -/
def mapValues {β : Type} (f : α → β) (d : Entries α) : Entries β := d.map fun p => (p.1, f p.2)

@[simp] theorem get?_nil (key : String) : get? ([] : Entries α) key = none := rfl

@[simp] theorem get?_cons (k : String) (v : α) (rest : Entries α) (key : String) :
    get? ((k, v) :: rest) key = if k = key then some v else get? rest key := rfl

@[simp] theorem get?_insert (d : Entries α) (key key' : String) (value : α) :
    get? (insert d key value) key' = if key = key' then some value else get? d key' := by
  induction d with
  | nil => rfl
  | cons entry rest ih =>
    obtain ⟨k, v⟩ := entry
    simp only [insert]
    split
    · rename_i h
      subst h
      simp only [get?_cons]
      split <;> rfl
    · split
      · simp only [get?_cons]
      · simp only [get?_cons, ih]
        split <;> split <;> simp_all

@[simp] theorem get?_erase (d : Entries α) (key key' : String) :
    get? (erase d key) key' = if key = key' then none else get? d key' := by
  induction d with
  | nil => simp [erase]
  | cons entry rest ih =>
    obtain ⟨k, v⟩ := entry
    simp only [erase] at ih ⊢
    by_cases h : k = key
    · subst h
      simp only [List.filter_cons, ne_eq, decide_not, decide_true, Bool.not_true,
        Bool.false_eq_true, ↓reduceIte, get?_cons] at ih ⊢
      rw [ih]
      split <;> rfl
    · simp only [List.filter_cons, ne_eq, h, not_false_eq_true, decide_true, ↓reduceIte,
        get?_cons] at ih ⊢
      rw [ih]
      split <;> split <;> simp_all

@[simp] theorem get?_mapValues {β : Type} (f : α → β) (d : Entries α) (key : String) :
    get? (mapValues f d) key = (get? d key).map f := by
  induction d with
  | nil => rfl
  | cons entry rest ih =>
    obtain ⟨k, v⟩ := entry
    simp only [mapValues] at ih ⊢
    simp only [List.map_cons, get?_cons, ih]
    split <;> rfl

/-- A pair of the entries after an insertion is the new one or an old one. -/
theorem mem_insert {d : Entries α} {key : String} {value : α} {p : String × α}
    (h : p ∈ insert d key value) : p = (key, value) ∨ p ∈ d := by
  induction d with
  | nil => simpa [insert] using h
  | cons entry rest ih =>
    obtain ⟨k, v⟩ := entry
    simp only [insert] at h
    split at h
    · rcases List.mem_cons.mp h with h | h <;> simp_all
    · split at h
      · rcases List.mem_cons.mp h with h | h <;> simp_all
      · rcases List.mem_cons.mp h with h | h
        · simp_all
        · rcases ih h with h | h <;> simp_all

theorem Sorted.insert {d : Entries α} (h : Sorted d) (key : String) (value : α) :
    Sorted (insert d key value) := by
  induction d with
  | nil => simp [Entries.insert, Sorted]
  | cons entry rest ih =>
    obtain ⟨k, v⟩ := entry
    have ⟨first, tail⟩ := List.pairwise_cons.mp h
    simp only [Entries.insert]
    split
    · rename_i hk
      subst hk
      exact List.pairwise_cons.mpr ⟨first, tail⟩
    · split
      · rename_i _ before
        refine List.pairwise_cons.mpr ⟨fun p hp => ?_, h⟩
        rcases List.mem_cons.mp hp with rfl | hp
        · exact before
        · exact String.lt_trans before (first p hp)
      · rename_i different notBefore
        refine List.pairwise_cons.mpr ⟨fun p hp => ?_, ih tail⟩
        rcases mem_insert hp with rfl | hp
        · exact String.not_le.mp fun hle =>
            different (String.le_antisymm hle (String.not_lt.mp notBefore)).symm
        · exact first p hp

theorem Sorted.erase {d : Entries α} (h : Sorted d) (key : String) : Sorted (erase d key) :=
  List.Pairwise.filter _ h

theorem Sorted.insertAll {d : Entries α} (h : Sorted d) (pairs : List (String × α)) :
    Sorted (insertAll d pairs) := by
  induction pairs generalizing d with
  | nil => exact h
  | cons p rest ih => exact ih (h.insert p.1 p.2)

theorem sorted_ofList (pairs : List (String × α)) : Sorted (ofList pairs) :=
  Sorted.insertAll List.Pairwise.nil pairs

end Entries

end RecordStore
