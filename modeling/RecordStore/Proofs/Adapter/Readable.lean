/-
What is written can be read.

An insertion that is answered has decoded what it wrote.  An update is not decoded, so
the same is asked of it: all that it writes into fields of bytes can be read.  Then every
document of a type can be read as a record of the type after every run of calls, and a
fetch comes to its end, whatever it asks for.  Types must not share a collection, since
what one of them has under a field need not be bytes to the other.

* `Config.Separates` — types have collections of their own;
* `Adapter.Request.admitted` — what is asked of updates;
* `Adapter.Readable` — the invariant, kept by each call that is answered;
* `Adapter.exists_fetch_run` — fetches after a run;
* `Adapter.exists_fetch_run_unreadable` — a run with an update that is not admitted.
-/
import RecordStore.Proofs.Adapter.Insert
import RecordStore.Proofs.Record.Readable
import RecordStore.Proofs.Store.Calls

namespace RecordStore

/-! ### Collections -/

/-- No two types of the schema have their records in one collection. -/
def Config.Separates (config : Config) (schema : Schema) : Prop :=
  ∀ type type', schema.contains type = true → schema.contains type' = true →
    config.collection type = config.collection type' → type = type'

theorem Schema.contains_of_type? {schema : Schema} {type : String} {t : RecordType}
    (h : schema.type? type = some t) : schema.contains type = true := by
  rw [type?] at h
  rw [contains, Entries.contains, h, Option.isSome_some]

theorem Config.Separates.eq_of_type? {config : Config} {schema : Schema}
    (h : config.Separates schema) {type type' : String} {t t' : RecordType}
    (htype : schema.type? type = some t) (htype' : schema.type? type' = some t')
    (hcollection : config.collection type = config.collection type') : t = t' := by
  have hknown := Schema.contains_of_type? htype
  have hknown' := Schema.contains_of_type? htype'
  obtain rfl := h type type' hknown hknown' hcollection
  exact Option.some_inj.mp (htype.symm.trans htype')

namespace Adapter

/-- Whether all that the updates of a request write into fields of bytes can be read. -/
def Request.admitted (schema : Schema) : Request → Bool
  | .mutate type updates =>
    (schema.type? type).all fun t => updates.all fun u => t.admits u.modifiers
  | _ => true

/-- The documents of every type can be read as records of the type. -/
def Readable (schema : Schema) (config : Config) (m : Memory) : Prop :=
  ∀ type t, schema.type? type = some t →
    ∀ d ∈ m.documents (config.collection type), Record.IsReadable t d

namespace Readable

variable {schema : Schema} {config : Config} {m m' : Memory}

theorem empty : Readable schema config {} := by
  intro type t _ d hd
  exact absurd hd List.not_mem_nil

theorem of_subset (h : Readable schema config m)
    (hsubset : ∀ name, m'.documents name ⊆ m.documents name) : Readable schema config m' := by
  intro type t htype d hd
  exact h type t htype d (hsubset _ hd)

/-- A store that changes in the collection of one type only. -/
theorem change (h : Readable schema config m) (hseparates : config.Separates schema)
    {type : String} {t : RecordType} (htype : schema.type? type = some t)
    (hother : ∀ name, config.collection type ≠ name → m'.documents name = m.documents name)
    (hnew : ∀ d ∈ m'.documents (config.collection type), Record.IsReadable t d) :
    Readable schema config m' := by
  intro type' t' htype' d hd
  by_cases hcollection : config.collection type = config.collection type'
  · obtain rfl := hseparates.eq_of_type? htype htype' hcollection
    rw [← hcollection] at hd
    exact hnew d hd
  · rw [hother _ hcollection] at hd
    exact h type' t' htype' d hd

end Readable

/-! ### Calls -/

section Calls

variable {schema : Schema} {config : Config} (fresh : Nat → String) {s : State Memory}
  (type : String) (h : Readable schema config s.store)

include h

theorem readable_fetch (ids : Option (List String)) (options : FetchOptions) :
    Readable schema config ((inMemory schema config fresh).fetch type ids options s).2.store := by
  refine h.of_subset fun name => ?_
  rw [documents_fetch]
  exact List.Subset.refl _

theorem readable_remove (ids : Option (List String)) :
    Readable schema config ((inMemory schema config fresh).remove type ids s).2.store := by
  refine h.of_subset fun name => ?_
  rw [State.store_eq (core_remove (inMemory schema config fresh) type s ids)]
  split
  · exact List.Subset.refl _
  · split
    · exact List.Subset.refl _
    · exact (Memory.sublist_deleteMany _ _ s.store name).subset

variable (hseparates : config.Separates schema)

include hseparates

/-- An insertion that stores documents and is answered has decoded them. -/
theorem readable_insert (records : List Record)
    (hanswer : ∀ cause, ((inMemory schema config fresh).insert type records s).1 ≠
      .error (.invalidBinary cause)) :
    Readable schema config ((inMemory schema config fresh).insert type records s).2.store := by
  cases htype : schema.type? type with
  | none =>
    rw [insert_of_unknown htype]
    exact h
  | some t =>
    rcases insert_cases schema config fresh type records s htype with
      ⟨-, hsame⟩ | ⟨houtcome, hstored⟩
    · refine h.of_subset fun name => ?_
      rw [hsame name]
      exact List.Subset.refl _
    · cases hdecoded : Record.decodeAll t (Record.encodeAll t records s.ids).1 with
      | error cause =>
        rw [hdecoded] at houtcome
        exact absurd houtcome (hanswer cause)
      | ok decoded =>
        have hreadable := Record.exists_decodeAll_iff.mp ⟨decoded, hdecoded⟩
        refine h.change hseparates htype (fun name hname => ?_) fun d hd => ?_
        · rw [hstored, if_neg hname]
        · rw [hstored, if_pos rfl] at hd
          rcases List.mem_append.mp hd with hold | hnew
          · exact h type t htype d hold
          · exact hreadable d hnew

variable {t : RecordType} (htype : schema.type? type = some t)

include htype

theorem readable_applyUpdate {u : Update} (hadmits : t.admits u.modifiers = true) :
    Readable schema config
      ((inMemory schema config fresh).applyUpdate (config.collection type) u s).2.store := by
  rw [State.store_eq (core_applyUpdate (inMemory schema config fresh) s
    (config.collection type) u)]
  split
  · exact h
  · refine h.change hseparates htype (fun name hname => ?_) ?_
    · exact Memory.documents_updateOne_of_ne _ _ _ hname
    · have hkeeps : ∀ d e, Record.IsReadable t d → Modifier.apply u.modifiers d = .ok e →
          Record.IsReadable t e := fun d e hd happly => hd.apply hadmits happly
      exact Memory.forall_mem_updateOne _ _ _ _ _ hkeeps (h type t htype)

theorem readable_applyUpdates {updates : List Update}
    (hadmits : ∀ u ∈ updates, t.admits u.modifiers = true) :
    Readable schema config
      ((inMemory schema config fresh).applyUpdates (config.collection type) updates s).2.store := by
  induction updates generalizing s with
  | nil => exact h
  | cons u rest ih =>
    have hfirst := readable_applyUpdate fresh type h hseparates htype
      (hadmits u List.mem_cons_self)
    exact ih hfirst fun v hv => hadmits v (List.mem_cons_of_mem _ hv)

omit htype

theorem readable_mutate {updates : List Update}
    (hadmitted : (Request.mutate type updates).admitted schema = true) :
    Readable schema config ((inMemory schema config fresh).mutate type updates s).2.store := by
  rw [State.store_eq (core_mutate (inMemory schema config fresh) type s updates), inMemory_schema]
  cases htype : schema.type? type with
  | none => exact h
  | some t =>
    rw [Request.admitted, htype, Option.all_some] at hadmitted
    exact readable_applyUpdates fresh type h hseparates htype (List.all_eq_true.mp hadmitted)

/-- A call keeps the documents readable, if it is not decoding that fails. -/
theorem readable_serve (request : Request) (hadmitted : request.admitted schema = true)
    (hanswer : ∀ cause, ((inMemory schema config fresh).serve request s).1 ≠
      .error (.invalidBinary cause)) :
    Readable schema config ((inMemory schema config fresh).serve request s).2.store := by
  cases request with
  | fetch type ids options => exact readable_fetch fresh type h ids options
  | insert type records =>
    refine readable_insert fresh type h hseparates records fun cause hinserted => ?_
    have hserved : ((inMemory schema config fresh).serve (.insert type records) s).1 =
        ((inMemory schema config fresh).insert type records s).1.map .inserted := rfl
    rw [hinserted] at hserved
    exact hanswer cause hserved
  | mutate type updates => exact readable_mutate fresh type h hseparates hadmitted
  | remove type ids => exact readable_remove fresh type h ids

theorem readable_run (requests : List Request)
    (hadmitted : ∀ request ∈ requests, request.admitted schema = true)
    (hanswers : ∀ answer ∈ ((inMemory schema config fresh).run requests s).1,
      ∀ cause, answer ≠ .error (.invalidBinary cause)) :
    Readable schema config ((inMemory schema config fresh).run requests s).2.store := by
  induction requests generalizing s with
  | nil => exact h
  | cons request rest ih =>
    rw [run_cons] at hanswers ⊢
    have hfirst := readable_serve fresh h hseparates request (hadmitted _ List.mem_cons_self)
      (hanswers _ List.mem_cons_self)
    exact ih hfirst (fun other hother => hadmitted other (List.mem_cons_of_mem _ hother))
      fun answer hmem => hanswers answer (List.mem_cons_of_mem _ hmem)

end Calls

/-! ### Fetches -/

section Fetches

variable {σ : Type} {schema : Schema} {config : Config} {type : String}
  (ids : Option (List String)) (options : FetchOptions)

/-- If the store answers both times, what matters is whether the documents can be decoded. -/
theorem fetch_of_found {a : Adapter σ} {s : State σ} {t : RecordType}
    (htype : a.schema.type? type = some t) (hids : ids ≠ some []) {documents : List Document}
    {count : Nat} {store store' : σ}
    (hfound : a.backend.find (a.collection type) (options.storeQuery t ids) options.findOptions
      s.store = (.ok documents, store))
    (hcounted : a.backend.count (a.collection type) (options.storeQuery t ids) store =
      (.ok count, store')) :
    (a.fetch type ids options s).1 =
      ((Record.decodeAll t documents).map fun records => { records, count }).mapError
        .invalidBinary := by
  simp only [fetch, htype, if_neg hids, hfound, hcounted]
  cases Record.decodeAll t documents with
  | error e => rfl
  | ok records => rfl

/-- The store in memory answers both times: with a page, and with the number of all the
documents that the query selects. -/
theorem fetch_eq_ok_iff (fresh : Nat → String) (s : State Memory) {t : RecordType}
    (htype : schema.type? type = some t) (hids : ids ≠ some []) {selected : List Document}
    (hselected : s.store.selected (config.collection type) (options.storeQuery t ids) = selected)
    {result : FetchResult} :
    ((inMemory schema config fresh).fetch type ids options s).1 = .ok result ↔
      Record.decodeAll t (Memory.page options.findOptions selected) = .ok result.records ∧
        result.count = selected.length := by
  subst hselected
  rw [fetch_of_found (a := inMemory schema config fresh) ids options htype hids rfl rfl,
    Except.mapError_eq_ok_iff, Except.map_eq_ok_iff]
  constructor
  · rintro ⟨records, hdecoded, rfl⟩
    exact ⟨hdecoded, rfl⟩
  · rintro ⟨hdecoded, hcount⟩
    refine ⟨result.records, hdecoded, ?_⟩
    obtain ⟨records, count⟩ := result
    rw [show count = _ from hcount]
    rfl

/-- Without identifiers to look for the store is not asked. -/
theorem fetch_nil (fresh : Nat → String) (s : State Memory)
    (hknown : schema.contains type = true) :
    ((inMemory schema config fresh).fetch type (some []) options s).1 = .ok {} := by
  obtain ⟨t, htype⟩ := Option.isSome_iff_exists.mp hknown
  have hschema : (inMemory schema config fresh).schema.type? type = some t := htype
  simp only [fetch, hschema, if_pos]

/-- A page of readable documents can be decoded, whatever is shown of them. -/
theorem exists_fetch (fresh : Nat → String) {s : State Memory}
    (h : Readable schema config s.store) (hknown : schema.contains type = true) :
    ∃ result, ((inMemory schema config fresh).fetch type ids options s).1 = .ok result := by
  by_cases hids : ids = some []
  · exact ⟨{}, hids ▸ fetch_nil options fresh s hknown⟩
  · obtain ⟨t, htype⟩ := Option.isSome_iff_exists.mp hknown
    obtain ⟨selected, hselected⟩ : ∃ selected, s.store.selected (config.collection type)
        (options.storeQuery t ids) = selected := ⟨_, rfl⟩
    have hpage : ∀ d ∈ Memory.page options.findOptions selected, Record.IsReadable t d := by
      intro d hd
      obtain ⟨e, he, rfl⟩ := Memory.mem_page hd
      rw [← hselected] at he
      have hstored := h type t htype e (List.mem_filter.mp he).1
      exact hstored.project _
    obtain ⟨records, hrecords⟩ := Record.exists_decodeAll_iff.mpr hpage
    exact ⟨{ records, count := selected.length },
      (fetch_eq_ok_iff ids options fresh s htype hids hselected).mpr ⟨hrecords, rfl⟩⟩

end Fetches

/-- After a run of calls none of which failed in decoding, with no update that writes what
cannot be read into a field of bytes, every fetch of a known type succeeds. -/
theorem exists_fetch_run (schema : Schema) (config : Config) (fresh : Nat → String)
    (hseparates : config.Separates schema) (ids : IdSupply) (log : Log) (requests : List Request)
    (hadmitted : ∀ request ∈ requests, request.admitted schema = true) :
    let a := inMemory schema config fresh
    let after := a.run requests (a.start {} ids log)
    (∀ answer ∈ after.1, ∀ cause, answer ≠ .error (.invalidBinary cause)) →
      ∀ type, schema.contains type = true → ∀ wanted options,
        ∃ result, (a.fetch type wanted options after.2).1 = .ok result := by
  intro a after hanswers type hknown wanted options
  have hstart : Readable schema config (a.start {} ids log).store := Readable.empty
  have hrun := readable_run fresh hstart hseparates requests hadmitted hanswers
  exact exists_fetch wanted options fresh hrun hknown

/-- Byte strings in several forms, put there by insertions and updates; one more call, on
a type that is not known, fails. -/
theorem exists_fetch_run_photos :
    let user : RecordType :=
      { name := "user"
        fields := [{ name := "avatar", storage := .binary },
          { name := "photos", storage := .binary, isArray := true }]
        nodup := by decide, unreserved := by decide }
    let schema : Schema := { types := [("user", user)] }
    let a := inMemory schema {} fun _ => "made-up"
    let requests : List Request :=
      [.insert "user"
          [{ id := some "u1", fields := [("avatar", .arr [.ofNat 1])] }, { id := some "u2" }],
        .remove "user" (some ["u2"]),
        .mutate "user"
          [{ id := "u1"
             replace := [("avatar", .obj [("buffer", .arr [.ofNat 2])])]
             push := [("photos", .arr [.arr [.ofNat 1], .arr []])] },
            { id := "u1", pull := [("photos", .arr [.arr []])] }],
        .insert "post" []]
    let after := a.run requests (a.start {} { generate := fun _ type => type })
    Config.Separates {} schema ∧ (∀ request ∈ requests, request.admitted schema = true) ∧
      after.2.store.documents "user" =
        [[("_id", .str "u1"), ("avatar", .obj [("buffer", .arr [.ofNat 2])]),
          ("photos", .arr [.arr [.ofNat 1]])]] ∧
      ∃ result, (a.fetch "user" none {} after.2).1 = .ok result := by
  intro user schema a requests after
  have hseparates : Config.Separates {} schema := fun type type' _ _ heq => heq
  have hadmitted : ∀ request ∈ requests, request.admitted schema = true := by
    refine List.forall_mem_cons.mpr ⟨rfl, List.forall_mem_cons.mpr ⟨rfl, ?_⟩⟩
    refine List.forall_mem_cons.mpr ⟨rfl, List.forall_mem_singleton.mpr rfl⟩
  have hanswers : ∀ answer ∈ after.1, ∀ cause, answer ≠ .error (.invalidBinary cause) := by
    have hall : ∃ inserted, after.1 = [.ok (.inserted inserted), .ok (.removed 1),
        .ok (.mutated 2), .error (.unknownType "post")] := ⟨_, rfl⟩
    obtain ⟨inserted, hall⟩ := hall
    rw [hall]
    simp
  refine ⟨hseparates, hadmitted, rfl, ?_⟩
  exact exists_fetch_run schema {} (fun _ => "made-up") hseparates _ {} requests hadmitted hanswers
    "user" rfl none {}

/-- An update that puts a text into a field of bytes: every call succeeds, but not the
fetch. -/
theorem exists_fetch_run_unreadable :
    let user : RecordType :=
      { name := "user", fields := [{ name := "avatar", storage := .binary }]
        nodup := by decide, unreserved := by decide }
    let schema : Schema := { types := [("user", user)] }
    let a := inMemory schema {} fun _ => "made-up"
    let requests : List Request :=
      [.insert "user" [{ id := some "u1" }],
        .mutate "user" [{ id := "u1", replace := [("avatar", .str "nope")] }]]
    let after := a.run requests (a.start {} { generate := fun _ type => type })
    Config.Separates {} schema ∧ (∀ answer ∈ after.1, ∃ given, answer = .ok given) ∧
      (a.fetch "user" none {} after.2).1 =
        .error (.invalidBinary { field := "avatar", found := "string" }) := by
  intro user schema a requests after
  have hseparates : Config.Separates {} schema := fun type type' _ _ heq => heq
  have hanswers : ∃ inserted, after.1 = [.ok (.inserted inserted), .ok (.mutated 1)] := ⟨_, rfl⟩
  refine ⟨hseparates, ?_, rfl⟩
  obtain ⟨inserted, hall⟩ := hanswers
  rw [hall]
  simp

end Adapter

end RecordStore
