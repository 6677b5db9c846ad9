/-
Pages of a fetch.

A page is cut out of the sorted documents before they are projected and decoded, which
is done to each document by itself.  So a fetch with an offset and a limit answers a
slice of what the same fetch answers without them, and the number of matches is the same.
A fetch changes no document, so pages that are asked for one after the other fit together.

* `slice` — the items from a place on, at most so many of them;
* `flatten_slices` — slices of one size, one behind the other;
* `Memory.page_eq_slice` — a page of documents as a slice of all of them;
* `Adapter.fetch_window`, `Adapter.run_windows` — one page, and several;
* `Adapter.fetch_pages` — all of this for one fetch.
-/
import RecordStore.Proofs.Adapter.Readable

namespace RecordStore

/-! ### Slices -/

/-- The items from a place on, at most so many of them. -/
def slice {α : Type} (offset limit : Option Nat) (xs : List α) : List α :=
  match limit with
  | some n => (xs.drop (offset.getD 0)).take n
  | none => xs.drop (offset.getD 0)

section Slices

variable {α β : Type} (offset limit : Option Nat)

theorem slice_nil : slice offset limit ([] : List α) = [] := by
  cases limit with
  | none => exact List.drop_nil
  | some n => rw [slice, List.drop_nil, List.take_nil]

theorem map_slice (f : α → β) (xs : List α) :
    (slice offset limit xs).map f = slice offset limit (xs.map f) := by
  cases limit with
  | none => exact List.map_drop
  | some n => rw [slice, slice, List.map_take, List.map_drop]

theorem forall₂_slice {R : α → β → Prop} {xs : List α} {ys : List β} (h : List.Forall₂ R xs ys) :
    List.Forall₂ R (slice offset limit xs) (slice offset limit ys) := by
  have hdrop := List.forall₂_drop (offset.getD 0) h
  cases limit with
  | none => exact hdrop
  | some n => exact List.forall₂_take n hdrop

/-- The first slices of one size are the first items. -/
theorem flatten_slices (n k : Nat) (xs : List α) :
    ((List.range k).map fun i => slice (some (i * n)) (some n) xs).flatten = xs.take (k * n) := by
  induction k with
  | zero => simp
  | succ k ih =>
    have hlast : slice (some (k * n)) (some n) xs = (xs.drop (k * n)).take n := rfl
    rw [List.range_succ, List.map_append, List.flatten_append, ih, List.map_singleton,
      List.flatten_singleton, hlast, Nat.succ_mul, List.take_add]

end Slices

/-! ### Pages of documents -/

/-- The same fetch with another offset and limit. -/
def FetchOptions.window (options : FetchOptions) (offset limit : Option Nat) : FetchOptions :=
  { options with offset, limit }

namespace Memory

theorem page_eq_slice (options : FindOptions) (ds : List Document) :
    page options ds = slice options.skip options.limit
      ((Document.sort options.sort ds).map (Document.project options.projection)) := by
  rw [← map_slice, page]
  cases options.limit <;> rfl

theorem page_window (options : FetchOptions) (offset limit : Option Nat) (ds : List Document) :
    page (options.window offset limit).findOptions ds =
      slice offset limit (page (options.window none none).findOptions ds) := by
  rw [page_eq_slice, page_eq_slice]
  rfl

theorem length_page (options : FetchOptions) (ds : List Document) :
    (page (options.window none none).findOptions ds).length = ds.length := by
  rw [page_eq_slice]
  exact (List.length_map _).trans (Document.perm_sort _ ds).length_eq

end Memory

/-! ### Fetches -/

namespace Adapter

variable {schema : Schema} {config : Config} {fresh : Nat → String} {type : String}
  {ids : Option (List String)} {options : FetchOptions} {s s' : State Memory}

variable {result : FetchResult}
  (h : ((inMemory schema config fresh).fetch type ids (options.window none none) s).1 = .ok result)

include h

/-- The type of a fetch that is answered is known. -/
theorem exists_type?_of_fetch : ∃ t, schema.type? type = some t := by
  cases htype : schema.type? type with
  | none =>
    rw [fetch_of_unknown htype] at h
    exact absurd h (by simp)
  | some t => exact ⟨t, rfl⟩

theorem count_of_fetch : result.count = result.records.length := by
  obtain ⟨t, htype⟩ := exists_type?_of_fetch h
  by_cases hids : ids = some []
  · rw [hids, fetch_nil _ fresh s (Schema.contains_of_type? htype)] at h
    obtain rfl := Except.ok.inj h
    rfl
  · obtain ⟨hdecoded, hcount⟩ := (fetch_eq_ok_iff ids _ fresh s htype hids rfl).mp h
    have hlength := (Except.mapM_eq_ok_iff.mp hdecoded).length_eq
    rw [hcount, ← hlength, Memory.length_page]

/-- A page of a fetch, also after other calls that changed no document. -/
theorem fetch_window (hsame : ∀ name, s'.store.documents name = s.store.documents name)
    (offset limit : Option Nat) :
    ((inMemory schema config fresh).fetch type ids (options.window offset limit) s').1 =
      .ok { records := slice offset limit result.records, count := result.count } := by
  obtain ⟨t, htype⟩ := exists_type?_of_fetch h
  by_cases hids : ids = some []
  -- No identifiers: neither fetch asks the store.
  · have hknown := Schema.contains_of_type? htype
    rw [hids, fetch_nil _ fresh s hknown] at h
    obtain rfl := Except.ok.inj h
    rw [hids, fetch_nil _ fresh s' hknown, slice_nil]
  · obtain ⟨hdecoded, hcount⟩ := (fetch_eq_ok_iff ids _ fresh s htype hids rfl).mp h
    have hselected : s'.store.selected (config.collection type)
        ((options.window offset limit).storeQuery t ids) =
        s.store.selected (config.collection type)
          ((options.window none none).storeQuery t ids) := by
      rw [Memory.selected, Memory.selected, hsame]
      rfl
    refine (fetch_eq_ok_iff ids _ fresh s' htype hids hselected).mpr ⟨?_, hcount⟩
    rw [Memory.page_window]
    exact Except.mapM_eq_ok_iff.mpr (forall₂_slice _ _ (Except.mapM_eq_ok_iff.mp hdecoded))

/-- Pages that are asked for one after the other. -/
theorem run_windows (hsame : ∀ name, s'.store.documents name = s.store.documents name)
    (windows : List (Option Nat × Option Nat)) :
    ((inMemory schema config fresh).run
        (windows.map fun w => .fetch type ids (options.window w.1 w.2)) s').1 =
      windows.map fun w =>
        .ok (.fetched { records := slice w.1 w.2 result.records, count := result.count }) := by
  induction windows generalizing s' with
  | nil => rfl
  | cons w rest ih =>
    have hfirst := fetch_window h hsame w.1 w.2
    have hafter : ∀ name, ((inMemory schema config fresh).serve
        (.fetch type ids (options.window w.1 w.2)) s').2.store.documents name =
        s.store.documents name :=
      fun name => (documents_fetch schema config fresh type ids _ s' name).trans (hsame name)
    rw [List.map_cons, run_cons, ih hafter, List.map_cons]
    refine congrArg₂ List.cons ?_ rfl
    show Except.map _ ((inMemory schema config fresh).fetch type ids _ s').1 = _
    rw [hfirst]
    rfl

omit h

/-- If a fetch without offset and limit is answered, then it counts its own records, and
with any offset and limit it answers just that slice of them and the same count.  Pages of
one size, asked for one after the other until all records have come, neither leave a
record out nor repeat one. -/
theorem fetch_pages (schema : Schema) (config : Config) (fresh : Nat → String) (type : String)
    (ids : Option (List String)) (options : FetchOptions) (s : State Memory)
    (result : FetchResult)
    (hfetched : ((inMemory schema config fresh).fetch type ids
      { options with offset := none, limit := none } s).1 = .ok result) :
    let a := inMemory schema config fresh
    result.count = result.records.length ∧
    (∀ offset limit, (a.fetch type ids { options with offset, limit } s).1 =
      .ok { records := slice offset limit result.records, count := result.count }) ∧
    ∀ n k, result.records.length ≤ k * n →
      let pages := (List.range k).map fun i => slice (some (i * n)) (some n) result.records
      pages.flatten = result.records ∧
      (a.run ((List.range k).map fun i =>
        .fetch type ids { options with offset := some (i * n), limit := some n }) s).1 =
        pages.map fun page => .ok (.fetched { records := page, count := result.count }) := by
  intro a
  refine ⟨count_of_fetch hfetched, fetch_window hfetched fun _ => rfl, fun n k hlength => ?_⟩
  intro pages
  have hall : pages.flatten = result.records := by
    rw [flatten_slices, List.take_of_length_le hlength]
  have hrun := run_windows hfetched (fun _ => rfl)
    ((List.range k).map fun i => (some (i * n), some n))
  rw [List.map_map, List.map_map] at hrun
  refine ⟨hall, ?_⟩
  rw [List.map_map]
  exact hrun

/-- Three of four documents, two of which tie, in pages of two. -/
theorem fetch_pages_of_two :
    let user : RecordType :=
      { name := "user", fields := [{ name := "active" }, { name := "team" }]
        nodup := by decide, unreserved := by decide }
    let a := inMemory { types := [("user", user)] } {} fun _ => "made-up"
    let s := a.start
      { collections := [("user",
          [[("_id", .str "u1"), ("active", .bool true), ("team", .str "red")],
            [("_id", .str "u2"), ("active", .bool true), ("team", .str "blue")],
            [("_id", .str "u3"), ("active", .bool false), ("team", .str "blue")],
            [("_id", .str "u4"), ("active", .bool true), ("team", .str "blue")]])] }
      { generate := fun _ type => type }
    let options : FetchOptions :=
      { sort := [{ field := "team" }], hook := some fun _ => some [("active", .bool true)] }
    let member (id team : String) : Record :=
      { id := some id, fields := [("active", .bool true), ("team", .str team)] }
    let result : FetchResult :=
      { records := [member "u2" "blue", member "u4" "blue", member "u1" "red"], count := 3 }
    (a.fetch "user" none { options with offset := none, limit := none } s).1 = .ok result ∧
      result.records.length ≤ 2 * 2 ∧
      (a.fetch "user" none { options with offset := some 3, limit := some 1 } s).1 =
        .ok { records := [], count := 3 } ∧
      (a.run [.fetch "user" none { options with offset := some 0, limit := some 2 },
          .fetch "user" none { options with offset := some 2, limit := some 2 }] s).1 =
        [.ok (.fetched { records := [member "u2" "blue", member "u4" "blue"], count := 3 }),
          .ok (.fetched { records := [member "u1" "red"], count := 3 })] := by
  intro user a s options member result
  have hfetched :
      (a.fetch "user" none { options with offset := none, limit := none } s).1 = .ok result := by
    subst result member options s a user
    rfl
  have hlength : result.records.length ≤ 2 * 2 := by decide
  obtain ⟨-, hwindow, hpages⟩ := fetch_pages { types := [("user", user)] } {}
    (fun _ => "made-up") "user" none options s result hfetched
  exact ⟨hfetched, hlength, hwindow (some 3) (some 1), (hpages 2 2 hlength).2⟩

end Adapter

end RecordStore
