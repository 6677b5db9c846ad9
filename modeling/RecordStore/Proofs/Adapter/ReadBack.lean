/-
Reading back what was inserted.

An insertion answers records with identifiers that nothing else in their collection has,
since its documents stand behind the others there and no label stands twice in a
collection that calls on adapters lead to.  So a query for these identifiers selects the
documents of the insertion and no others, in their order, and decoding them again gives
the records that were answered.

* `Record.map_id_of_decodeAll` — the identifiers of decoded records are the labels;
* `Memory.selected_restrictToIds` — a query for labels that stand behind others;
* `Adapter.fetch_inserted` — a fetch right after an insertion.
-/
import RecordStore.Proofs.Adapter.Reachable
import RecordStore.Proofs.Adapter.Readable

namespace RecordStore

/-- Records decoded from labelled documents have the labels as identifiers. -/
theorem Record.map_id_of_decodeAll {t : RecordType} {ds : List Document} {records : List Record}
    (hdecoded : Record.decodeAll t ds = .ok records) (hlabelled : ∀ d ∈ ds, d.IsLabelled) :
    records.map Record.id = (ds.map Document.label).map some := by
  have hpairs := (List.forall₂_and_left _ _).mpr ⟨hlabelled, Except.mapM_eq_ok_iff.mp hdecoded⟩
  have hids : List.Forall₂ (fun d r => some d.label = Record.id r) ds records := by
    refine hpairs.imp fun d r ⟨hlabel, hdecode⟩ => ?_
    rw [Record.id_of_decode hdecode, hlabel]
    rfl
  rw [List.map_map, ← List.forall₂_eq_eq_eq, List.forall₂_map_left_iff, List.forall₂_map_right_iff]
  exact (hids.imp fun d r h => h.symm).flip

namespace Memory

/-- Among documents whose labels stand once, the labels of the last ones select these. -/
theorem filter_label_append {ds es : List Document} {wanted : List String}
    (nodup : ((ds ++ es).map Document.label).Nodup)
    (hwanted : ∀ id, id ∈ wanted ↔ id ∈ es.map Document.label) :
    ((ds ++ es).filter fun d => decide (d.label ∈ wanted)) = es := by
  rw [List.map_append, List.nodup_append] at nodup
  obtain ⟨-, -, hapart⟩ := nodup
  have hnone : (ds.filter fun d => decide (d.label ∈ wanted)) = [] := by
    refine List.filter_eq_nil_iff.mpr fun d hd hmem => ?_
    have hlast := (hwanted _).mp (of_decide_eq_true hmem)
    exact hapart _ (List.mem_map_of_mem hd) _ hlast rfl
  have hall : (es.filter fun d => decide (d.label ∈ wanted)) = es := by
    refine List.filter_eq_self.mpr fun e he => ?_
    exact decide_eq_true ((hwanted _).mpr (List.mem_map_of_mem he))
  rw [List.filter_append, hnone, hall, List.nil_append]

/-- What a query for the labels of the last documents of a collection selects. -/
theorem selected_restrictToIds {m : Memory} {collection : String} {ds es : List Document}
    {wanted : List String} (hdocuments : m.documents collection = ds ++ es)
    (hlabelled : Labelled (ds ++ es)) (hwanted : ∀ id, id ∈ wanted ↔ id ∈ es.map Document.label) :
    m.selected collection (restrictToIds [] wanted) = es := by
  have hlabels : ∀ d ∈ ds ++ es,
      Query.selects d (restrictToIds [] wanted) = decide (d.label ∈ wanted) :=
    fun d hd => Query.selects_restrictToIds_nil (hlabelled.isLabelled d hd) wanted
  rw [selected, hdocuments, List.filter_congr hlabels]
  exact filter_label_append hlabelled.nodup hwanted

end Memory

namespace Adapter

/-- The identifiers of the records that an insertion answers are pairwise different, and a
fetch right after it that asks for just these gives the same records in the same order,
whatever calls led to the store. -/
theorem fetch_inserted (schema : Schema) (config : Config) (fresh : Nat → String) (type : String)
    (records stored : List Record) (s : State Memory) (hreachable : Reachable s.store)
    (hinserted : ((inMemory schema config fresh).insert type records s).1 = .ok stored) :
    let a := inMemory schema config fresh
    let after := (a.insert type records s).2
    ∃ ids : List String, stored.map Record.id = ids.map some ∧ ids.Nodup ∧
      ∀ wanted : List String, (∀ id, id ∈ wanted ↔ id ∈ ids) →
        (a.fetch type (some wanted) {} after).1 =
          .ok { records := stored, count := stored.length } := by
  intro a after
  obtain ⟨t, htype, hdecoded, hdocuments⟩ := insert_ok schema config fresh type records s hinserted
  -- After the call, too, the store is one that calls on adapters lead to.
  have hlabelled : Memory.Labelled (after.store.documents (config.collection type)) :=
    (hreachable.serve schema config fresh (.insert type records) s).labelled _
  rw [hdocuments] at hlabelled
  have hnodup := hlabelled.nodup
  rw [List.map_append] at hnodup
  have hids := Record.map_id_of_decodeAll hdecoded
    fun d hd => hlabelled.isLabelled d (List.mem_append_right _ hd)
  have hlength := (Except.mapM_eq_ok_iff.mp hdecoded).length_eq
  refine ⟨_, hids, hnodup.of_append_right, fun wanted hwanted => ?_⟩
  by_cases hempty : wanted = []
  -- Nothing was inserted, and nothing is asked for.
  · subst hempty
    have hnone : stored.map Record.id = [] := by
      rw [hids, List.map_eq_nil_iff]
      exact List.eq_nil_iff_forall_not_mem.mpr fun id hid =>
        List.not_mem_nil ((hwanted id).mpr hid)
    obtain rfl := List.map_eq_nil_iff.mp hnone
    exact fetch_nil {} fresh after (Schema.contains_of_type? htype)
  · have hselected := Memory.selected_restrictToIds hdocuments hlabelled hwanted
    have hoptions : ({} : FetchOptions).findOptions = {} := rfl
    refine (fetch_eq_ok_iff (some wanted) {} fresh after htype (by simpa using hempty)
      hselected).mpr ⟨?_, hlength.symm⟩
    rw [hoptions, Memory.page_default]
    exact hdecoded

/-- Two records behind another one: the first is given an identifier and a default, and
they are asked for in another order. -/
theorem fetch_inserted_behind_others :
    let user : RecordType :=
      { name := "user"
        fields := [{ name := "name" }, { name := "tags", isArray := true }]
        nodup := by decide, unreserved := by decide }
    let schema : Schema := { types := [("user", user)] }
    let a := inMemory schema {} fun _ => "made-up"
    let s := (a.run [.insert "user" [{ id := some "u1" }]]
      (a.start {} { generate := fun _ _ => "u3" })).2
    let inserted := a.insert "user"
      [{ fields := [("name", .str "Ada")] }, { id := some "u2", fields := [("tags", .null)] }] s
    let stored : List Record :=
      [{ id := some "u3", fields := [("name", .str "Ada"), ("tags", .arr [])] },
        { id := some "u2", fields := [("name", .null), ("tags", .null)] }]
    Reachable s.store ∧ inserted.1 = .ok stored ∧
      (a.fetch "user" (some ["u2", "u3"]) {} inserted.2).1 =
        .ok { records := stored, count := 2 } := by
  intro user schema a s inserted stored
  have hreachable : Reachable s.store := Reachable.empty.run schema {} (fun _ => "made-up") _
  have hinserted : inserted.1 = .ok stored := by
    subst stored inserted s a schema user
    rfl
  refine ⟨hreachable, hinserted, ?_⟩
  obtain ⟨ids, hids, -, hfetch⟩ :=
    fetch_inserted schema {} (fun _ => "made-up") "user" _ stored s hreachable hinserted
  have hlist : ids = ["u3", "u2"] := by
    simpa [stored] using (congrArg (List.filterMap id) hids).symm
  refine hfetch ["u2", "u3"] fun id => ?_
  rw [hlist]
  simp [or_comm]

end Adapter

end RecordStore
