/-
Fetches that show some of the fields.

Documents are found, sorted and counted as they are stored, and what is left out is left out of
the page only, before it is decoded.  A field that is left out counts as missing, and so the
record has the default in its place; all else is as it would be without the selection.

* `FetchOptions.keeps` — whether a selection of fields keeps a field;
* `Record.Blanked` — a record with the fields that are not kept at their defaults;
* `Record.exists_decode_project` — the record of what is shown of a document;
* `Adapter.fetch_selection` — a fetch with a selection of fields, against one without.
-/
import RecordStore.Proofs.Adapter.Pages
import RecordStore.Proofs.Record.RoundTrip

namespace RecordStore

/-! ### Selections -/

namespace FetchOptions

/-- Whether a selection keeps a field: if it selects one other than the identifier, it keeps those
that it selects, and else all but those that it excludes. -/
def keeps (fields : Entries Bool) (name : String) : Bool :=
  if fields.any fun p => p.1 ≠ Document.idKey && p.2 then fields.get? name = some true
  else fields.get? name ≠ some false

theorem includes_flag (shown : Bool) : Projection.includes (flag shown) = shown := by
  cases shown <;> decide +kernel

theorem isInclusive_mapValues (fields : Entries Bool) :
    Projection.isInclusive (fields.mapValues flag) =
      fields.any fun p => p.1 ≠ Document.idKey && p.2 := by
  simp only [Projection.isInclusive, Entries.mapValues, List.any_map, Function.comp_def,
    includes_flag]

/-- The projection of a selection keeps what the selection keeps. -/
theorem keeps_mapValues (fields : Entries Bool) {name : String} (hname : name ≠ Document.idKey) :
    Projection.keeps (fields.mapValues flag) name = keeps fields name := by
  rw [Projection.keeps, keeps, Entries.get?_mapValues, isInclusive_mapValues]
  cases fields.get? name with
  | none => simp [hname]
  | some shown => cases shown <;> simp [includes_flag]

/-- The identifier is kept unless it is excluded. -/
theorem keeps_mapValues_idKey {fields : Entries Bool}
    (hid : fields.get? Document.idKey ≠ some false) :
    Projection.keeps (fields.mapValues flag) Document.idKey = true := by
  rw [Projection.keeps, Entries.get?_mapValues]
  cases hflag : fields.get? Document.idKey with
  | none => simp
  | some shown =>
    cases shown with
    | false => exact absurd hflag hid
    | true => exact includes_flag true

end FetchOptions

/-! ### Records -/

namespace Record

/-- A record, and the same record with the fields of the type that are not kept at their
defaults. -/
structure Blanked (t : RecordType) (keeps : String → Bool) (r r' : Record) : Prop where
  id : r'.id = r.id
  keys_fields : ∀ name, name ∈ r'.fields.keys ↔ name ∈ r.fields.keys
  keys_derived : ∀ name, name ∈ r'.derived.keys ↔ name ∈ r.derived.keys
  value : ∀ f ∈ t.fields, ∃ v, r.get? f.name = some v ∧
    r'.get? f.name = some (if keeps f.name then v else f.default)

section OfValues

variable {t : RecordType} (id : Option String) (value : Field → Json)

theorem mem_keys_ofList_pairs {fs : List Field} {name : String} :
    name ∈ (Entries.ofList (Field.pairs value fs)).keys ↔ name ∈ fs.map Field.name := by
  rw [Entries.ofList, Entries.mem_keys_insertAll, Field.keys_pairs]
  exact or_iff_left List.not_mem_nil

/-- A record of values shows the value of each field, where it belongs. -/
theorem get?_ofValues {f : Field} (hf : f ∈ t.fields) :
    (ofValues t id value).get? f.name = some (value f) := by
  have hsorted : (ofValues t id value).fields.Sorted := Entries.sorted_ofList _
  rw [get?, ← Entries.get?_reverse hsorted.nodup_keys]
  cases hderived : f.isDenormalized with
  | false => rw [get?_fields_ofValues id value hf hderived, Option.some_or]
  | true =>
    rw [get?_fields_ofValues_denormalized id value hf hderived, Option.none_or,
      get?_derived_ofValues id value hf hderived]

end OfValues

/-- What is shown of a document that can be decoded is decoded to the same record, with the fields
that are not shown at their defaults. -/
theorem exists_decode_project {t : RecordType} {projection d : Document} {keeps : String → Bool}
    (hid : Projection.keeps projection Document.idKey = true)
    (hkeeps : ∀ f ∈ t.fields, Projection.keeps projection f.name = keeps f.name) {r : Record}
    (h : decode t d = .ok r) :
    ∃ r', decode t (Document.project projection d) = .ok r' ∧ Blanked t keeps r r' := by
  obtain ⟨hvalue, rfl⟩ := decode_eq_ok_iff.mp h
  have hshown : ∀ f ∈ t.fields, decodeField (Document.project projection d) f =
      .ok (if keeps f.name then fieldValue d f else f.default) := by
    intro f hf
    rw [decodeField_project, hkeeps f hf, hvalue f hf]
    split <;> rfl
  refine ⟨_, decode_of_values hshown, ?_, fun name => ?_, fun name => ?_, fun f hf => ?_⟩
  · show (Entries.get? _ _).bind _ = (Entries.get? _ _).bind _
    rw [Document.get?_project, if_pos hid]
  · exact (mem_keys_ofList_pairs _).trans (mem_keys_ofList_pairs _).symm
  · exact (mem_keys_ofList_pairs _).trans (mem_keys_ofList_pairs _).symm
  · exact ⟨fieldValue d f, get?_ofValues _ _ hf, get?_ofValues _ _ hf⟩

end Record

/-! ### Fetches -/

/-- A page of what is shown is what is shown of the page. -/
theorem Memory.page_selection (options : FetchOptions) (ds : List Document) :
    page options.findOptions ds =
      (page { options with fields := [] }.findOptions ds).map
        (Document.project options.findOptions.projection) := by
  rw [page_eq_slice, page_eq_slice, ← map_slice, ← map_slice, List.map_map]
  rfl

namespace Adapter

/-- If a fetch that shows all fields is answered, then so is the same fetch with a selection of
fields that does not exclude the identifier.  It counts the same, and its records are the same in
the same order, with the fields that the selection does not keep at their defaults. -/
theorem fetch_selection (schema : Schema) (config : Config) (fresh : Nat → String) (type : String)
    (ids : Option (List String)) (options : FetchOptions) (s : State Memory) {t : RecordType}
    (htype : schema.type? type = some t)
    (hid : options.fields.get? Document.idKey ≠ some false) (result : FetchResult)
    (hfetched : ((inMemory schema config fresh).fetch type ids { options with fields := [] } s).1 =
      .ok result) :
    ∃ records, ((inMemory schema config fresh).fetch type ids options s).1 =
        .ok { records, count := result.count } ∧
      records.length = result.records.length ∧
      List.Forall₂ (Record.Blanked t (FetchOptions.keeps options.fields)) result.records
        records := by
  by_cases hids : ids = some []
  -- No identifiers: neither fetch asks the store.
  · have hknown := Schema.contains_of_type? htype
    rw [hids, fetch_nil _ fresh s hknown] at hfetched
    obtain rfl := Except.ok.inj hfetched
    exact ⟨[], by rw [hids, fetch_nil _ fresh s hknown], rfl, .nil⟩
  · obtain ⟨hdecoded, hcount⟩ := (fetch_eq_ok_iff ids _ fresh s htype hids rfl).mp hfetched
    obtain ⟨records, hshown, hblanked⟩ := Except.exists_mapM_of_forall
      (fun d r hd => Record.exists_decode_project (FetchOptions.keeps_mapValues_idKey hid)
        (fun f hf => FetchOptions.keeps_mapValues options.fields (t.name_ne_documentIdKey hf)) hd)
      hdecoded
    refine ⟨records, (fetch_eq_ok_iff ids _ fresh s htype hids rfl).mpr ⟨?_, hcount⟩,
      hblanked.length_eq.symm, hblanked⟩
    rw [Memory.page_selection, Record.decodeAll, List.mapM_map]
    exact hshown

/-- Names alone, in the order of a field that is not shown, with a photo and a derived field left
out. -/
theorem fetch_selection_of_names :
    let user : RecordType :=
      { name := "user"
        fields := [{ name := "name" }, { name := "rank" }, { name := "photo", storage := .binary },
          { name := "teams", storage := .reference, isArray := true, isDenormalized := true }]
        nodup := by decide, unreserved := by decide }
    let schema : Schema := { types := [("user", user)] }
    let a := inMemory schema {} fun _ => "made-up"
    let s := a.start
      { collections := [("user",
          [[("_id", .str "u1"), ("name", .str "Ada"), ("rank", .str "b"), ("teams", .arr [])],
            [("_id", .str "u2"), ("name", .str "Bob"), ("photo", .arr [.ofNat 7]),
              ("rank", .str "a"), ("teams", .arr [.str "t1"])]])] }
      { generate := fun _ type => type }
    let options : FetchOptions :=
      { sort := [{ field := "rank" }], limit := some 1
        fields := [("_id", true), ("name", true), ("rank", false)] }
    let bob : Record :=
      { id := some "u2"
        fields := [("name", .str "Bob"), ("photo", .arr [.ofNat 7]), ("rank", .str "a")]
        derived := [("teams", .arr [.str "t1"])] }
    schema.type? "user" = some user ∧ options.fields.get? Document.idKey ≠ some false ∧
      (a.fetch "user" none { options with fields := [] } s).1 =
        .ok { records := [bob], count := 2 } ∧
      ∃ r, (a.fetch "user" none options s).1 = .ok { records := [r], count := 2 } ∧
        r.id = some "u2" ∧ r.get? "name" = some (.str "Bob") ∧ r.get? "rank" = some .null ∧
        r.get? "photo" = some .null ∧ r.get? "teams" = some (.arr []) := by
  intro user schema a s options bob
  have htype : schema.type? "user" = some user := rfl
  have hid : options.fields.get? Document.idKey ≠ some false := by decide
  have hfetched : (a.fetch "user" none { options with fields := [] } s).1 =
      .ok { records := [bob], count := 2 } := rfl
  obtain ⟨records, hshown, -, hblanked⟩ :=
    fetch_selection schema {} (fun _ => "made-up") "user" none options s htype hid _ hfetched
  obtain ⟨r, rest, hr, hrest, rfl⟩ := List.forall₂_cons_left_iff.mp hblanked
  obtain rfl := List.forall₂_nil_left_iff.mp hrest
  refine ⟨htype, hid, hfetched, r, hshown, hr.id, ?_⟩
  have hvalue : ∀ f ∈ user.fields, ∀ v, bob.get? f.name = some v → r.get? f.name =
      some (if FetchOptions.keeps options.fields f.name then v else f.default) := by
    intro f hf v hv
    obtain ⟨w, hw, hshow⟩ := hr.value f hf
    obtain rfl := Option.some_inj.mp (hv.symm.trans hw)
    exact hshow
  exact ⟨hvalue { name := "name" } (by decide) _ rfl, hvalue { name := "rank" } (by decide) _ rfl,
    hvalue { name := "photo", storage := .binary } (by decide) _ rfl,
    hvalue { name := "teams", storage := .reference, isArray := true, isDenormalized := true }
      (by decide) _ rfl⟩

end Adapter

end RecordStore
