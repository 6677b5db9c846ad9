/-
Catalogues: documents under identifiers, in the order of insertion.

A catalogue is what a collection of the store in memory is to its callers.  Its
operations work on identifiers and know nothing of queries.  The store has the
identifiers inside the documents, so the two agree on catalogues whose documents are
labelled with the identifiers under which they stand.

* `Catalogue` — the entries, with identifiers that stand once;
* `Catalogue.append`, `Catalogue.update`, `Catalogue.erase` — the operations;
* `Catalogue.documents_append`, `Catalogue.documents_update`,
  `Catalogue.documents_erase` — what they do to the documents.
-/
import RecordStore.Proofs.Store.Memory
import RecordStore.Update

namespace RecordStore

/-- Documents under identifiers, in the order of insertion; no identifier stands twice. -/
structure Catalogue where
  entries : List (String × Document)
  nodup : (entries.map (·.1)).Nodup

namespace Catalogue

def empty : Catalogue := ⟨[], List.nodup_nil⟩

/-- The identifiers, in order. -/
def ids (c : Catalogue) : List String := c.entries.map (·.1)

/-- The documents, in order. -/
def documents (c : Catalogue) : List Document := c.entries.map (·.2)

/-- Appends documents under their labels, if these are pairwise distinct and none of
them is an identifier of the catalogue; else the catalogue does not change. -/
def append (c : Catalogue) (batch : List Document) : Catalogue :=
  if h : (batch.map Document.label).Nodup ∧ ∀ d ∈ batch, d.label ∉ c.ids then
    { entries := c.entries ++ batch.map fun d => (d.label, d)
      nodup := by
        rw [List.map_append, List.map_map, List.nodup_append]
        refine ⟨c.nodup, h.1, ?_⟩
        rintro id hid _ hlabel rfl
        obtain ⟨d, hd, rfl⟩ := List.mem_map.mp hlabel
        exact h.2 d hd hid }
  else c

/-- Changes the document under an identifier in its place, if there is one. -/
def change (c : Catalogue) (id : String) (f : Document → Document) : Catalogue where
  entries := c.entries.map fun e => (e.1, if e.1 = id then f e.2 else e.2)
  nodup := by
    rw [List.map_map]
    exact c.nodup

/-- Replaces the document under the identifier of an update by what its modifiers make
of it.  Nothing changes if there are no modifiers, if they fail, or if there is no such
document. -/
def update (c : Catalogue) (u : Update) : Catalogue :=
  if u.modifiers.isEmpty then c else c.change u.id (Modifier.attempt u.modifiers)

/-- Takes out the entries with one of the identifiers. -/
def erase (c : Catalogue) (ids : List String) : Catalogue where
  entries := c.entries.filter fun e => e.1 ∉ ids
  nodup := c.nodup.sublist (List.filter_sublist.map _)

theorem append_nil (c : Catalogue) : c.append [] = c := by
  rw [append]
  split
  · simp only [List.map_nil, List.append_nil]
  · rfl

theorem erase_nil (c : Catalogue) : c.erase [] = c := by
  have hentries : (c.entries.filter fun e => e.1 ∉ []) = c.entries :=
    List.filter_eq_self.mpr fun e _ => by simp
  simp only [erase, hentries]

/-! ### Labelled catalogues -/

/-- Every document is labelled with the identifier under which it stands. -/
def Labelled (c : Catalogue) : Prop :=
  ∀ e ∈ c.entries, e.2.get? Document.idKey = some (.str e.1)

theorem labelled_empty : Labelled empty := fun _ h => absurd h List.not_mem_nil

namespace Labelled

variable {c : Catalogue} (h : c.Labelled)

include h

theorem label_eq {e : String × Document} (he : e ∈ c.entries) : e.2.label = e.1 :=
  Document.label_eq (h e he)

theorem isLabelled {d : Document} (hd : d ∈ c.documents) : d.IsLabelled := by
  obtain ⟨e, he, rfl⟩ := List.mem_map.mp hd
  exact Document.isLabelled_of_get? (h e he)

theorem map_label : c.documents.map Document.label = c.ids := by
  rw [documents, List.map_map]
  exact List.map_congr_left fun e he => h.label_eq he

theorem nodup_label : (c.documents.map Document.label).Nodup := by
  rw [h.map_label]
  exact c.nodup

/-! ### The operations on the documents -/

theorem fits_iff (batch : List Document) :
    Memory.Fits c.documents batch ↔
      (batch.map Document.label).Nodup ∧ ∀ d ∈ batch, d.label ∉ c.ids := by
  rw [Memory.Fits, h.map_label]

theorem documents_append (batch : List Document) :
    (c.append batch).documents =
      if Memory.Fits c.documents batch then c.documents ++ batch else c.documents := by
  rw [append]
  by_cases hfits : Memory.Fits c.documents batch
  · rw [if_pos hfits, dif_pos ((h.fits_iff batch).mp hfits)]
    show List.map _ (c.entries ++ _) = _
    rw [List.map_append, List.map_map]
    exact congrArg (c.documents ++ ·) (List.map_id batch)
  · rw [if_neg hfits, dif_neg (mt (h.fits_iff batch).mpr hfits)]

theorem documents_change (id : String) (f : Document → Document) :
    (c.change id f).documents = Memory.changeLabel id f c.documents := by
  show List.map _ (List.map _ c.entries) = List.map _ (List.map _ c.entries)
  rw [List.map_map, List.map_map]
  refine List.map_congr_left fun e he => ?_
  simp only [Function.comp_apply, h.label_eq he]

theorem documents_erase (ids : List String) :
    (c.erase ids).documents = c.documents.filter fun d => d.label ∉ ids := by
  rw [documents, documents, List.filter_map]
  refine congrArg (List.map _) (List.filter_congr fun e he => ?_)
  simp only [Function.comp_apply, h.label_eq he]

/-! ### The operations keep the labels -/

theorem append {batch : List Document} (hbatch : ∀ d ∈ batch, d.IsLabelled) :
    (c.append batch).Labelled := by
  intro e he
  rw [Catalogue.append] at he
  split at he
  · rcases List.mem_append.mp he with hold | hnew
    · exact h e hold
    · obtain ⟨d, hd, rfl⟩ := List.mem_map.mp hnew
      exact hbatch d hd
  · exact h e he

theorem change {f : Document → Document} (id : String)
    (hf : ∀ d, (f d).get? Document.idKey = d.get? Document.idKey) : (c.change id f).Labelled := by
  intro e he
  obtain ⟨old, hold, rfl⟩ := List.mem_map.mp he
  show (if old.1 = id then f old.2 else old.2).get? Document.idKey = _
  split
  · rw [hf, h old hold]
  · exact h old hold

/-- No update touches a label. -/
theorem update (u : Update) : (c.update u).Labelled := by
  rw [Catalogue.update]
  split
  · exact h
  · exact h.change u.id (Modifier.get?_attempt_idKey u.modifiers)

theorem erase (ids : List String) : (c.erase ids).Labelled :=
  fun e he => h e (List.mem_filter.mp he).1

end Labelled

end Catalogue

end RecordStore
