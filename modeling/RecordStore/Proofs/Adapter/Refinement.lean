/-
An adapter over the store in memory is a family of catalogues.

The calls on an adapter can be read as operations on catalogues, one for each
collection, which know identifiers and no queries.  The reading is exact: started on
an empty store, the adapter has in every collection the documents of its catalogue,
after every call of every run.  What carries the proof through a run is that each
document holds, as a text, the identifier under which it stands in its catalogue.

* `Catalogues.serve`, `Catalogues.run` — what calls do to catalogues;
* `Catalogues.serve_insert` — the batch of an insertion, document by document;
* `Adapter.Refines` — what ties a store to catalogues;
* `Adapter.refines_serve` — a call keeps it, whether it succeeds or fails;
* `Adapter.documents_run` — the collections after a run.
-/
import RecordStore.Proofs.Adapter.Insert
import RecordStore.Proofs.Store.Catalogue

namespace RecordStore

/-- Catalogues by the names of their collections, and the supply of identifiers. -/
structure Catalogues where
  catalogue : String → Catalogue
  ids : IdSupply

namespace Catalogues

/-- No collection has any document. -/
def start (ids : IdSupply) : Catalogues := { catalogue := fun _ => .empty, ids }

/-- Changes one catalogue. -/
def change (l : Catalogues) (name : String) (f : Catalogue → Catalogue) : Catalogues :=
  { l with
    catalogue := fun other => if name = other then f (l.catalogue name) else l.catalogue other }

/-- What a call does to the catalogues.  Identifiers are made up for all records of an
insertion, also for one that is refused, and updates are applied in the order of their list. -/
def serve (schema : Schema) (config : Config) (request : Adapter.Request) (l : Catalogues) :
    Catalogues :=
  match request with
  | .fetch .. => l
  | .insert type records =>
    match schema.type? type with
    | none => l
    | some t =>
      let (documents, ids) := Record.encodeAll t records l.ids
      { l.change (config.collection type) (·.append documents) with ids }
  | .mutate type updates =>
    match schema.type? type with
    | none => l
    | some _ => l.change (config.collection type) fun c => updates.foldl Catalogue.update c
  | .remove type ids =>
    match schema.type? type with
    | none => l
    | some _ => l.change (config.collection type) fun c =>
        match ids with
        | none => .empty
        | some ids => c.erase ids

/-- What calls do to the catalogues, one after the other. -/
def run (schema : Schema) (config : Config) (requests : List Adapter.Request) (l : Catalogues) :
    Catalogues :=
  requests.foldl (fun l request => l.serve schema config request) l

theorem change_eq_self {l : Catalogues} {name : String} {f : Catalogue → Catalogue}
    (h : f (l.catalogue name) = l.catalogue name) : l.change name f = l := by
  refine congrArg (Catalogues.mk · l.ids) (funext fun other => ?_)
  split
  · rename_i hname
    rw [h, hname]
  · rfl

theorem change_change (l : Catalogues) (name : String) (f g : Catalogue → Catalogue) :
    (l.change name f).change name g = l.change name fun c => g (f c) := by
  refine congrArg (Catalogues.mk · l.ids) (funext fun other => ?_)
  simp only [change, if_true]
  split
  · rfl
  · rfl

/-- An insertion hands its catalogue one document for each record, in the order of the records:
that of the record by itself, with the identifiers that the records before it have left. -/
theorem serve_insert (schema : Schema) (config : Config) (l : Catalogues) {type : String}
    {t : RecordType} (htype : schema.type? type = some t) (records : List Record) :
    ∃ batch : List Document,
      (∀ i, batch[i]? = records[i]?.map fun r =>
        (Record.encode t r (Record.encodeAll t (records.take i) l.ids).2).1) ∧
      l.serve schema config (.insert type records) =
        { l.change (config.collection type) (·.append batch) with
          ids := (Record.encodeAll t records l.ids).2 } := by
  refine ⟨(Record.encodeAll t records l.ids).1, Record.getElem?_encodeAll t records l.ids, ?_⟩
  rw [serve, htype]

end Catalogues

namespace Adapter

/-- The store has in every collection the documents of its catalogue, which are labelled
with the identifiers under which they stand; both draw on the same supply. -/
structure Refines (core : Memory × IdSupply) (l : Catalogues) : Prop where
  ids : core.2 = l.ids
  documents : ∀ name, core.1.documents name = (l.catalogue name).documents
  labelled : ∀ name, (l.catalogue name).Labelled

namespace Refines

variable {core : Memory × IdSupply} {m m' : Memory} {ids ids' : IdSupply} {l : Catalogues}

theorem start (ids : IdSupply) : Refines ({}, ids) (Catalogues.start ids) where
  ids := rfl
  documents _ := rfl
  labelled _ := Catalogue.labelled_empty

/-- A store whose documents stay the same keeps to its catalogues. -/
theorem of_documents_eq (h : Refines (m, ids) l)
    (hsame : ∀ name, m'.documents name = m.documents name) : Refines (m', ids) l where
  ids := h.ids
  documents name := (hsame name).trans (h.documents name)
  labelled := h.labelled

/-- A store that changes in one collection, as its catalogue does. -/
theorem change (h : Refines (m, ids) l) {name : String} {f : Catalogue → Catalogue}
    (hdocuments : ∀ other, m'.documents other =
      if name = other then (f (l.catalogue name)).documents else m.documents other)
    (hlabelled : (f (l.catalogue name)).Labelled) : Refines (m', ids) (l.change name f) where
  ids := h.ids
  documents other := by
    rw [hdocuments other]
    show _ = Catalogue.documents (if name = other then _ else _)
    split
    · rfl
    · exact h.documents other
  labelled other := by
    show Catalogue.Labelled (if name = other then _ else _)
    split
    · exact hlabelled
    · exact h.labelled other

/-- Identifiers have been made up on both sides. -/
theorem advance (h : Refines (m, ids) l) (ids' : IdSupply) :
    Refines (m, ids') { l with ids := ids' } where
  ids := rfl
  documents := h.documents
  labelled := h.labelled

theorem isLabelled (h : Refines (m, ids) l) (name : String) :
    ∀ d ∈ m.documents name, d.IsLabelled := by
  intro d hd
  rw [show m.documents name = _ from h.documents name] at hd
  exact (h.labelled name).isLabelled hd

theorem nodup_label (h : Refines (m, ids) l) (name : String) :
    ((m.documents name).map Document.label).Nodup := by
  rw [show m.documents name = _ from h.documents name]
  exact (h.labelled name).nodup_label

end Refines

/-! ### Calls -/

section Calls

variable (schema : Schema) (config : Config) (fresh : Nat → String) {s : State Memory}
  {l : Catalogues} (type : String)

theorem refines_fetch (h : Refines s.core l) (ids : Option (List String))
    (options : FetchOptions) :
    Refines ((inMemory schema config fresh).fetch type ids options s).2.core l := by
  rw [core_fetch]
  split
  · exact h
  · split
    · exact h
    -- A search and a count leave all documents alone.
    · exact h.of_documents_eq fun _ => rfl

/-- A batch is accepted by the store just if the catalogue takes it. -/
theorem refines_insert (h : Refines s.core l) (records : List Record) :
    Refines ((inMemory schema config fresh).insert type records s).2.core
      (l.serve schema config (.insert type records)) := by
  rw [core_insert, Catalogues.serve, inMemory_schema, show s.ids = l.ids from h.ids]
  cases schema.type? type with
  | none => exact h
  | some t =>
    dsimp only
    split
    -- Without records nothing is asked of the store, and the catalogue appends nothing.
    · rename_i hempty
      obtain rfl := List.isEmpty_iff.mp hempty
      rw [Catalogues.change_eq_self (Catalogue.append_nil _)]
      exact h
    · have hbatch : ∀ d ∈ (Record.encodeAll t records l.ids).1, d.IsLabelled := by
        intro d hd
        obtain ⟨id, hid⟩ := Record.exists_idKey_of_mem_encodeAll hd
        exact Document.isLabelled_of_get? hid
      -- The supply goes on even if the batch is refused.
      refine (h.change (fun other => ?_) ((h.labelled _).append hbatch)).advance _
      rw [(h.labelled _).documents_append, ← h.documents]
      exact Memory.documents_insertMany fresh (config.collection type) s.store
        (h.isLabelled _) hbatch other

theorem refines_applyUpdate (h : Refines s.core l) (collection : String) (u : Update) :
    Refines ((inMemory schema config fresh).applyUpdate collection u s).2.core
      (l.change collection (·.update u)) := by
  rw [core_applyUpdate]
  split
  · rename_i hempty
    have hsame : l.change collection (·.update u) = l :=
      Catalogues.change_eq_self (if_pos hempty)
    rw [hsame]
    exact h
  · rename_i hmodifiers
    refine h.change (fun other => ?_) ((h.labelled _).update u)
    rw [Catalogue.update, if_neg hmodifiers, (h.labelled _).documents_change, ← h.documents]
    exact Memory.documents_updateOne collection u.modifiers u.id s.store (h.isLabelled _)
      (h.nodup_label _) other

/-- Updates are applied one after the other, as they are to the catalogue. -/
theorem refines_applyUpdates (h : Refines s.core l) (collection : String)
    (updates : List Update) :
    Refines ((inMemory schema config fresh).applyUpdates collection updates s).2.core
      (l.change collection fun c => updates.foldl Catalogue.update c) := by
  induction updates generalizing s l with
  | nil =>
    rw [Catalogues.change_eq_self rfl]
    exact h
  | cons u rest ih =>
    have hfirst := refines_applyUpdate schema config fresh h collection u
    -- What the rest does to the catalogue comes on top of what `u` did to it.
    have hrest := ih hfirst
    rw [Catalogues.change_change] at hrest
    exact hrest

theorem refines_mutate (h : Refines s.core l) (updates : List Update) :
    Refines ((inMemory schema config fresh).mutate type updates s).2.core
      (l.serve schema config (.mutate type updates)) := by
  rw [core_mutate, Catalogues.serve, inMemory_schema]
  cases schema.type? type with
  | none => exact h
  | some t => exact refines_applyUpdates schema config fresh h (config.collection type) updates

theorem refines_remove (h : Refines s.core l) (ids : Option (List String)) :
    Refines ((inMemory schema config fresh).remove type ids s).2.core
      (l.serve schema config (.remove type ids)) := by
  rw [core_remove, Catalogues.serve, inMemory_schema]
  cases schema.type? type with
  | none => exact h
  | some t =>
    dsimp only
    have hremoved := Memory.documents_deleteMany (config.collection type) ids s.store
      (h.isLabelled _)
    cases ids with
    | none =>
      rw [if_neg (by simp)]
      refine h.change (fun other => (hremoved other).trans ?_) Catalogue.labelled_empty
      rw [List.filter_eq_nil_iff.mpr (by simp)]
      rfl
    | some ids =>
      have herased := (h.labelled (config.collection type)).documents_erase ids
      split
      · rename_i hempty
        obtain rfl := Option.some_inj.mp hempty
        rw [Catalogues.change_eq_self (Catalogue.erase_nil _)]
        exact h
      · refine h.change (fun other => (hremoved other).trans ?_) ((h.labelled _).erase ids)
        rw [herased, ← h.documents]
        simp only [Option.all_some, decide_not]
        rfl

/-- What holds a store and catalogues together holds after every call, whether it
succeeds or fails. -/
theorem refines_serve (h : Refines s.core l) (request : Request) :
    Refines ((inMemory schema config fresh).serve request s).2.core
      (l.serve schema config request) := by
  cases request with
  | fetch type ids options => exact refines_fetch schema config fresh type h ids options
  | insert type records => exact refines_insert schema config fresh type h records
  | mutate type updates => exact refines_mutate schema config fresh type h updates
  | remove type ids => exact refines_remove schema config fresh type h ids

theorem refines_run (h : Refines s.core l) (requests : List Request) :
    Refines ((inMemory schema config fresh).run requests s).2.core
      (l.run schema config requests) := by
  -- The relation is the invariant: each call leads from related states to related ones.
  induction requests generalizing s l with
  | nil => exact h
  | cons request rest ih =>
    rw [run_cons]
    exact ih (refines_serve schema config fresh h request)

end Calls

/-- An adapter started on an empty store has, after every run of calls, in every
collection the documents of its catalogue, each under the identifier that it holds. -/
theorem documents_run (schema : Schema) (config : Config) (fresh : Nat → String)
    (ids : IdSupply) (log : Log) (requests : List Request) (name : String) :
    let a := inMemory schema config fresh
    let catalogue := ((Catalogues.start ids).run schema config requests).catalogue name
    (a.run requests (a.start {} ids log)).2.store.documents name = catalogue.documents ∧
      catalogue.Labelled := by
  intro a catalogue
  have hstart : Refines (a.start {} ids log).core (Catalogues.start ids) := Refines.start ids
  have hrun := refines_run schema config fresh hstart requests
  exact ⟨hrun.documents name, hrun.labelled name⟩

end Adapter

end RecordStore
