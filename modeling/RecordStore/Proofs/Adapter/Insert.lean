/-
Insertions into the store in memory.

An insertion encodes its records, writes all documents at once and then decodes the
documents as stored.  What fails before the write or in it leaves every collection as
it was.  Encoding does not look into byte strings, though, and decoding does, so a
batch with a value that is no byte string is written all the same before the call
fails.

* `Adapter.insert_cases` — what an insertion can do;
* `Adapter.insert_ok` — what it has done if it is answered;
* `Adapter.insert_error` — what becomes of the collections if it fails.
-/
import RecordStore.Proofs.Adapter.Run
import RecordStore.Proofs.Record.Encoding
import RecordStore.Proofs.Store.Memory

namespace RecordStore.Adapter

/-! ### The outcome, over any backend -/

section Outcome

variable {σ : Type} {a : Adapter σ} {type : String} {records : List Record} {s : State σ}

variable {t : RecordType} (htype : a.schema.type? type = some t) (hrecords : records ≠ [])

include htype hrecords

theorem insert_of_refused {e : StoreError} {store : σ}
    (hanswer : a.backend.insertMany (a.collection type) (Record.encodeAll t records s.ids).1
      s.store = (.error e, store)) (hduplicate : e.isDuplicate = true) :
    (a.insert type records s).1 = .error .conflict := by
  have hempty : ¬records.isEmpty = true := by simpa using hrecords
  simp only [insert, htype, if_neg hempty, hanswer, if_pos hduplicate]

/-- If the store takes the documents, what matters is whether they can be decoded. -/
theorem insert_of_stored {stored : List Document} {store : σ}
    (hanswer : a.backend.insertMany (a.collection type) (Record.encodeAll t records s.ids).1
      s.store = (.ok stored, store)) :
    (a.insert type records s).1 = (Record.decodeAll t stored).mapError .invalidBinary := by
  have hempty : ¬records.isEmpty = true := by simpa using hrecords
  simp only [insert, htype, if_neg hempty, hanswer]
  cases Record.decodeAll t stored with
  | error e => rfl
  | ok inserted => rfl

theorem store_insert_of_answer {answer : Except StoreError (List Document)} {store : σ}
    (hanswer : a.backend.insertMany (a.collection type) (Record.encodeAll t records s.ids).1
      s.store = (answer, store)) :
    (a.insert type records s).2.store = store := by
  have hempty : ¬records.isEmpty = true := by simpa using hrecords
  have hcore := core_insert a type s records
  simp only [htype, if_neg hempty, hanswer] at hcore
  exact congrArg Prod.fst hcore

end Outcome

/-! ### Insertions into the store in memory -/

variable (schema : Schema) (config : Config) (fresh : Nat → String) (type : String)
  (records : List Record) (s : State Memory)

/-- An insertion of a known type is refused because an identifier is taken, and changes
no document, or it writes all documents, and then its outcome is that of decoding them. -/
theorem insert_cases {t : RecordType} (htype : schema.type? type = some t) :
    let inserted := (inMemory schema config fresh).insert type records s
    let documents := (Record.encodeAll t records s.ids).1
    (inserted.1 = .error .conflict ∧
      ∀ name, inserted.2.store.documents name = s.store.documents name) ∨
    (inserted.1 = (Record.decodeAll t documents).mapError .invalidBinary ∧
      ∀ name, inserted.2.store.documents name =
        if config.collection type = name then s.store.documents name ++ documents
        else s.store.documents name) := by
  intro inserted documents
  by_cases hrecords : records = []
  -- No records: nothing is written, and nothing is decoded either.
  · subst hrecords
    have hinserted : inserted = (.ok [], s.count .shortCircuited) := by
      show Adapter.insert _ _ _ _ = _
      rw [insert, show (inMemory schema config fresh).schema.type? type = some t from htype]
      rfl
    refine Or.inr ⟨by rw [hinserted]; rfl, fun name => ?_⟩
    rw [hinserted, show documents = [] from rfl, List.append_nil, ite_self]
    rfl
  · have hcontains : ∀ d ∈ documents, d.contains Document.idKey = true := by
      intro d hd
      obtain ⟨id, hid⟩ := Record.exists_idKey_of_mem_encodeAll hd
      rw [Entries.contains, hid, Option.isSome_some]
    -- The documents bring their identifiers, so the store takes them as they are or not at all.
    rcases Memory.insertMany_of_contains fresh (config.collection type) s.store hcontains with
      hstored | ⟨id, hrefused⟩
    · refine Or.inr ⟨insert_of_stored htype hrecords hstored, fun name => ?_⟩
      rw [store_insert_of_answer htype hrecords hstored, Memory.documents_setDocuments]
      by_cases hname : config.collection type = name
      · rw [if_pos hname, if_pos hname, hname]
      · rw [if_neg hname, if_neg hname, Memory.documents_served]
    · refine Or.inl ⟨insert_of_refused htype hrecords hrefused rfl, fun name => ?_⟩
      rw [store_insert_of_answer htype hrecords hrefused, Memory.documents_served]

/-- An insertion that is answered has written all documents and decoded them. -/
theorem insert_ok {stored : List Record}
    (h : ((inMemory schema config fresh).insert type records s).1 = .ok stored) :
    ∃ t, schema.type? type = some t ∧
      Record.decodeAll t (Record.encodeAll t records s.ids).1 = .ok stored ∧
      ((inMemory schema config fresh).insert type records s).2.store.documents
          (config.collection type) =
        s.store.documents (config.collection type) ++ (Record.encodeAll t records s.ids).1 := by
  cases htype : schema.type? type with
  | none =>
    rw [insert_of_unknown htype] at h
    exact absurd h (by simp)
  | some t =>
    rcases insert_cases schema config fresh type records s htype with
      ⟨houtcome, -⟩ | ⟨houtcome, hstored⟩
    · exact absurd (h.symm.trans houtcome) (by simp)
    · rw [h] at houtcome
      exact ⟨t, rfl, Except.mapError_eq_ok_iff.mp houtcome.symm, by rw [hstored, if_pos rfl]⟩

/-- If an insertion fails, no collection has changed, unless what fails is decoding the
documents that were written. -/
theorem insert_error {e : AdapterError} {s' : State Memory}
    (h : (inMemory schema config fresh).insert type records s = (.error e, s')) :
    ((∀ cause, e ≠ .invalidBinary cause) →
      ∀ name, s'.store.documents name = s.store.documents name) ∧
    (∀ cause, e = .invalidBinary cause → ∃ t, schema.type? type = some t ∧
      Record.decodeAll t (Record.encodeAll t records s.ids).1 = .error cause ∧
      ∀ name, s'.store.documents name =
        if config.collection type = name then
          s.store.documents name ++ (Record.encodeAll t records s.ids).1
        else s.store.documents name) := by
  cases htype : schema.type? type with
  | none =>
    rw [insert_of_unknown htype] at h
    obtain ⟨he, rfl⟩ := Prod.mk.inj h
    obtain rfl := Except.error.inj he
    exact ⟨fun _ _ => rfl, fun cause hcause => absurd hcause (by simp)⟩
  | some t =>
    have hcases := insert_cases schema config fresh type records s htype
    rw [h] at hcases
    -- A conflict is found before anything is written; any other failure is one of decoding.
    rcases hcases with ⟨houtcome, hsame⟩ | ⟨houtcome, hstored⟩
    · obtain rfl := Except.error.inj houtcome
      exact ⟨fun _ => hsame, fun cause hcause => absurd hcause (by simp)⟩
    · cases hdecoded : Record.decodeAll t (Record.encodeAll t records s.ids).1 with
      | ok decoded =>
        rw [hdecoded] at houtcome
        exact absurd houtcome (by simp [Except.mapError])
      | error found =>
        rw [hdecoded] at houtcome
        obtain rfl := Except.error.inj houtcome
        refine ⟨fun hother => absurd rfl (hother found), ?_⟩
        rintro cause hcause
        obtain rfl := AdapterError.invalidBinary.inj hcause
        exact ⟨t, rfl, hdecoded, hstored⟩

/-- The second of two records has an identifier that is taken. -/
theorem insert_error_taken :
    let user : RecordType :=
      { name := "user", fields := [{ name := "name" }]
        nodup := by decide, unreserved := by decide }
    let a := inMemory { types := [("user", user)] } {} fun _ => "made-up"
    let s := a.start { collections := [("user", [[("_id", .str "u1"), ("name", .str "Ada")]])] }
      { generate := fun _ type => "new-" ++ type }
    let inserted := a.insert "user" [{ id := some "u2" }, { id := some "u1" }] s
    inserted.1 = .error .conflict ∧
      ∀ name, inserted.2.store.documents name = s.store.documents name := by
  intro user a s inserted
  have hrefused : inserted.1 = .error .conflict := rfl
  have hinserted : inserted = (.error .conflict, inserted.2) := Prod.ext hrefused rfl
  exact ⟨hrefused, (insert_error { types := [("user", user)] } {} (fun _ => "made-up") "user" _ s
    hinserted).1 (by simp)⟩

/-- A record with a text for bytes: the insertion fails, and the record is there. -/
theorem insert_error_stored :
    let user : RecordType :=
      { name := "user", fields := [{ name := "avatar", storage := .binary }]
        nodup := by decide, unreserved := by decide }
    let a := inMemory { types := [("user", user)] } {} fun _ => "made-up"
    let s := a.start {} { generate := fun _ type => "new-" ++ type }
    let inserted := a.insert "user" [{ id := some "u1", fields := [("avatar", .str "nope")] }] s
    inserted.1 = .error (.invalidBinary { field := "avatar", found := "string" }) ∧
      s.store.documents "user" = [] ∧
      inserted.2.store.documents "user" = [[("_id", .str "u1"), ("avatar", .str "nope")]] :=
  ⟨rfl, rfl, rfl⟩

end RecordStore.Adapter
