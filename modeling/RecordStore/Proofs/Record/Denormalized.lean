/-
Denormalized fields and what is written.

The derived fields of a record have no say in its document, so a record that was
decoded never writes a denormalized field back.  The fields of a record have: they are
copied without a look at the record type, and a value that stands there under the name
of a denormalized field is written like any other.

* `Record.get?_encode` — what the document of a record holds under a field;
* `Record.encode_denormalized_iff` — when all denormalized fields hold their defaults;
* `Record.encode_denormalized_supplied` — a record that has one of them written.
-/
import RecordStore.Proofs.Record.Encoding

namespace RecordStore.Record

theorem get?_encode (t : RecordType) {r : Record} (hr : r.fields.Sorted) (ids : IdSupply)
    {f : Field} (hf : f ∈ t.fields) :
    (encode t r ids).1.get? f.name = some ((r.fields.get? f.name).getD f.default) := by
  show (toDocument t r (assignId t r ids).1).get? f.name = _
  rw [get?_toDocument_field t r _ hf, Entries.get?_reverse hr.nodup_keys]

/-- The document of a record holds the defaults of all denormalized fields just if the
fields of the record have no other values for them, whatever its derived fields are. -/
theorem encode_denormalized_iff (t : RecordType) (r : Record) (hr : r.fields.Sorted)
    (ids : IdSupply) :
    (∀ f ∈ t.fields, f.isDenormalized = true →
        (encode t r ids).1.get? f.name = some f.default) ↔
      ∀ f ∈ t.fields, f.isDenormalized = true →
        ∀ v, r.fields.get? f.name = some v → v = f.default := by
  constructor
  · intro hwritten f hf hderived v hv
    have hget := hwritten f hf hderived
    rw [get?_encode t hr ids hf, hv, Option.getD_some] at hget
    exact Option.some_inj.mp hget
  · intro hsupplied f hf hderived
    rw [get?_encode t hr ids hf]
    cases hv : r.fields.get? f.name with
    | none => rfl
    | some v => rw [Option.getD_some, hsupplied f hf hderived v hv]

/-- A record that was read, with the denormalized field among the derived ones. -/
theorem encode_denormalized_read :
    let user : RecordType :=
      { name := "user"
        fields := [{ name := "name" },
          { name := "createdBy", storage := .reference, isArray := true, isDenormalized := true }]
        nodup := by decide, unreserved := by decide }
    let r : Record :=
      { id := some "u1"
        fields := [("name", .str "Ada")]
        derived := [("createdBy", .arr [.str "p1"])] }
    let ids : IdSupply := { generate := fun _ type => "new-" ++ type }
    r.fields.Sorted ∧ ∀ f ∈ user.fields, f.isDenormalized = true →
      (encode user r ids).1.get? f.name = some f.default := by
  intro user r ids
  have hr : r.fields.Sorted := List.pairwise_singleton _ _
  refine ⟨hr, (encode_denormalized_iff user r hr ids).mpr fun f hf hderived v hv => ?_⟩
  -- The only field of the record, `name`, is not denormalized.
  rcases List.mem_cons.mp hf with rfl | hf
  · exact absurd hderived Bool.false_ne_true
  · obtain rfl := List.mem_singleton.mp hf
    exact absurd hv (by simp [r])

/-- A plain object with the denormalized field among its entries: the document has it. -/
theorem encode_denormalized_supplied :
    let user : RecordType :=
      { name := "user"
        fields := [{ name := "name" },
          { name := "createdBy", storage := .reference, isArray := true, isDenormalized := true }]
        nodup := by decide, unreserved := by decide }
    let r := Record.ofObject [("createdBy", .arr [.str "p1"]), ("id", .str "u1")]
    let ids : IdSupply := { generate := fun _ type => "new-" ++ type }
    ¬∀ f ∈ user.fields, f.isDenormalized = true →
      (encode user r ids).1.get? f.name = some f.default := by
  intro user r ids hdefaults
  have hdefault := hdefaults
    { name := "createdBy", storage := .reference, isArray := true, isDenormalized := true }
    (by decide) rfl
  have hwritten : (encode user r ids).1.get? "createdBy" = some (.arr [.str "p1"]) := rfl
  rw [hwritten] at hdefault
  exact absurd hdefault (by simp [Field.default])

end RecordStore.Record
