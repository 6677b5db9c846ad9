/-
Stores that adapters can bring about.

A store may serve several adapters, which need not agree on schema and configuration.
As long as nobody else calls it, its documents are those of catalogues, and so they are
labelled: every identifier is a text, and no two are the same.

* `Adapter.Reachable` — the stores that calls on adapters lead to;
* `Adapter.Reachable.run` — among them those after a run of one adapter;
* `Adapter.Reachable.labelled` — their documents are labelled.
-/
import RecordStore.Proofs.Adapter.Refinement
import RecordStore.Proofs.Store.Interchange

namespace RecordStore.Adapter

/-- The stores that calls on adapters lead to, from the empty store. -/
inductive Reachable : Memory → Prop
  | empty : Reachable {}
  | serve (schema : Schema) (config : Config) (fresh : Nat → String) (request : Request)
      (s : State Memory) : Reachable s.store →
      Reachable ((inMemory schema config fresh).serve request s).2.store

namespace Reachable

variable {m : Memory}

theorem run (schema : Schema) (config : Config) (fresh : Nat → String) (requests : List Request)
    {s : State Memory} (h : Reachable s.store) :
    Reachable ((inMemory schema config fresh).run requests s).2.store := by
  induction requests generalizing s with
  | nil => exact h
  | cons request rest ih => exact ih (h.serve schema config fresh request s)

/-- A reachable store has the documents of catalogues, whatever supply goes with it. -/
theorem exists_refines (h : Reachable m) (ids : IdSupply) : ∃ l, Refines (m, ids) l := by
  induction h generalizing ids with
  | empty => exact ⟨_, Refines.start ids⟩
  | serve schema config fresh request s _ ih =>
    obtain ⟨l, hl⟩ := ih s.ids
    have hserved := refines_serve schema config fresh (s := s) hl request
    exact ⟨_, Refines.advance hserved ids⟩

theorem labelled (h : Reachable m) (name : String) : Memory.Labelled (m.documents name) := by
  obtain ⟨l, hl⟩ := h.exists_refines { generate := fun _ type => type }
  exact ⟨hl.isLabelled name, hl.nodup_label name⟩

end Reachable

end RecordStore.Adapter
