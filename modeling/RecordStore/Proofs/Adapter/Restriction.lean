/-
Fetching among identifiers.

Whatever a query asks, restricting it to identifiers adds the question for the identifier and
takes nothing away.  So a fetch with identifiers looks at the documents that have one of them,
and everything else in the store could as well be missing.

* `Memory.documentsAmong` — the documents with one of several identifiers;
* `Memory.selected_restricted` — what a restricted query selects of a collection;
* `Adapter.fetch_restricted` — fetches with identifiers.
-/
import RecordStore.Proofs.Adapter.Readable
import RecordStore.Proofs.Query.ById

namespace RecordStore

namespace Memory

/-- The documents of a collection that have one of the identifiers. -/
def documentsAmong (m : Memory) (collection : String) (ids : List String) : List Document :=
  (m.documents collection).filter (Document.hasIdAmong ids)

theorem documentsAmong_nil (m : Memory) (collection : String) :
    m.documentsAmong collection [] = [] :=
  List.filter_eq_nil_iff.mpr fun d _ => by simp [Document.hasIdAmong_nil d]

/-- Of a collection a restricted query selects what the query selects of the documents with one
of the identifiers. -/
theorem selected_restricted (m : Memory) (collection : String) (query : Document)
    (ids : List String) :
    m.selected collection (restrictToIds query ids) =
      (m.documentsAmong collection ids).filter fun d => Query.selects d query := by
  rw [selected, documentsAmong, List.filter_filter]
  exact List.filter_congr fun d _ => Query.selects_restrictToIds d query ids

theorem page_nil (options : FindOptions) : page options [] = [] := by
  cases h : options.limit <;> simp [page, Document.sort, h]

end Memory

namespace Adapter

variable (schema : Schema) (config : Config) (fresh : Nat → String) (type : String)
  (ids : List String) (options : FetchOptions)

/-- The documents that a fetch with identifiers finds in a store. -/
def found (t : RecordType) (m : Memory) : List Document :=
  (m.documentsAmong (config.collection type) ids).filter fun d =>
    Query.selects d (options.hooked (options.filter.query t))

/-- The answer to a fetch with identifiers comes from the documents that it finds. -/
theorem fetch_some {t : RecordType} (htype : schema.type? type = some t) (s : State Memory) :
    let matching := found config type ids options t s.store
    ((inMemory schema config fresh).fetch type (some ids) options s).1 =
      ((Record.decodeAll t (Memory.page options.findOptions matching)).map fun records =>
        { records, count := matching.length }).mapError .invalidBinary := by
  intro matching
  by_cases hids : ids = []
  -- The store is not asked, and there would be no document to find.
  · have hnone : matching = [] := by
      simp only [matching, found, hids, Memory.documentsAmong_nil, List.filter_nil]
    rw [hnone, Memory.page_nil, hids, fetch_nil options fresh s (Schema.contains_of_type? htype)]
    rfl
  · have hselected : s.store.selected (config.collection type)
        (options.storeQuery t (some ids)) = matching :=
      Memory.selected_restricted s.store _ _ ids
    rw [fetch_of_found (a := inMemory schema config fresh) (some ids) options htype
      (by simpa using hids) rfl rfl, ← hselected]
    rfl

/-- A query restricted to identifiers selects just those of its documents that have one of
them.  So a fetch with identifiers counts and answers such documents only, and two stores that
agree on the documents with one of these identifiers give the same answer, whatever else is in
them, and whether it could be decoded or not. -/
theorem fetch_restricted :
    (∀ query d, Query.selects d (restrictToIds query ids) =
      (Query.selects d query && d.hasIdAmong ids)) ∧
    (∀ s result, ((inMemory schema config fresh).fetch type (some ids) options s).1 = .ok result →
      ∃ t, schema.type? type = some t ∧
        let matching := (s.store.documentsAmong (config.collection type) ids).filter fun d =>
          Query.selects d (options.hooked (options.filter.query t))
        result.count = matching.length ∧
        ∀ r ∈ result.records, ∃ d ∈ matching,
          Record.decode t (Document.project options.findOptions.projection d) = .ok r) ∧
    ∀ s s', s.store.documentsAmong (config.collection type) ids =
        s'.store.documentsAmong (config.collection type) ids →
      ((inMemory schema config fresh).fetch type (some ids) options s).1 =
        ((inMemory schema config fresh).fetch type (some ids) options s').1 := by
  refine ⟨fun query d => Query.selects_restrictToIds d query ids, ?_, ?_⟩
  · intro s result hfetched
    cases htype : schema.type? type with
    | none =>
      have hunknown : (inMemory schema config fresh).schema.type? type = none := htype
      rw [fetch_of_unknown hunknown] at hfetched
      exact absurd hfetched (by simp)
    | some t =>
      rw [fetch_some schema config fresh type ids options htype,
        Except.mapError_eq_ok_iff, Except.map_eq_ok_iff] at hfetched
      obtain ⟨records, hdecoded, rfl⟩ := hfetched
      refine ⟨t, rfl, rfl, fun r hr => ?_⟩
      obtain ⟨shown, hshown, hdecode⟩ := Except.exists_of_mem_mapM hdecoded r hr
      obtain ⟨d, hd, rfl⟩ := Memory.mem_page hshown
      exact ⟨d, hd, hdecode⟩
  · intro s s' hsame
    cases htype : schema.type? type with
    | none =>
      have hunknown : (inMemory schema config fresh).schema.type? type = none := htype
      rw [fetch_of_unknown hunknown, fetch_of_unknown hunknown]
    | some t =>
      rw [fetch_some schema config fresh type ids options htype,
        fetch_some schema config fresh type ids options htype, found, found, hsame]

/-- A caller who replaces the query by one that asks for every identifier, and a store with
documents of others, the first of which cannot be decoded. -/
theorem fetch_restricted_hooked :
    let user : RecordType :=
      { name := "user", fields := [{ name := "avatar", storage := .binary }]
        nodup := by decide, unreserved := by decide }
    let schema : Schema := { types := [("user", user)] }
    let a := inMemory schema {} fun _ => "made-up"
    let options : FetchOptions := { hook := some fun _ => some [("_id", .obj [("$ne", .null)])] }
    let state (ds : List Document) : State Memory :=
      { store := { collections := [("user", ds)] }, ids := { generate := fun _ type => type } }
    let own : Document := [("_id", .str "u1"), ("avatar", .null)]
    let s := state [own]
    let s' := state [[("_id", .str "u0"), ("avatar", .str "nope")], own, [("_id", .arr [.null])]]
    let result : FetchResult :=
      { records := [{ id := some "u1", fields := [("avatar", .null)] }], count := 1 }
    s.store.documentsAmong "user" ["u1", "u2"] = s'.store.documentsAmong "user" ["u1", "u2"] ∧
      (a.fetch "user" (some ["u1", "u2"]) options s).1 = .ok result ∧
      (a.fetch "user" (some ["u1", "u2"]) options s').1 = .ok result := by
  intro user schema a options state own s s' result
  have hsame : s.store.documentsAmong "user" ["u1", "u2"] =
      s'.store.documentsAmong "user" ["u1", "u2"] := rfl
  have hfetched : (a.fetch "user" (some ["u1", "u2"]) options s).1 = .ok result := rfl
  obtain ⟨-, -, hagree⟩ :=
    fetch_restricted schema {} (fun _ => "made-up") "user" ["u1", "u2"] options
  exact ⟨hsame, hfetched, (hagree s s' hsame).symm.trans hfetched⟩

end Adapter

end RecordStore
