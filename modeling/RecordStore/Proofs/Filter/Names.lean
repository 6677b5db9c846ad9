/-
Fields asked for by their names.

A field is one key of a document, and a filter writes the name of the field into the query as
it is.  The query reads that key in its own way: `$and`, `$or` and `$nor` as operators, and
anything else as a path, cut at its points.  A name without a point leads to the field.  With a
point the path starts at another key, and where the record brings nothing for that key, nothing
stands below it: an identifier is a text, and the default of a field is null or empty.  Under
an operator the condition is no list of queries, so `$or` is never met and the other two always
are.

* `Filter.selects_anyOf_singleton` — what a filter of one value selects, for any name;
* `Record.resolve?_encode_alone` — a name with a point does not lead to its field;
* `Filter.selects_encode` — the fields whose records are all found by the values they hold.
-/
import RecordStore.Proofs.Filter.Values
import RecordStore.Proofs.Record.Completion

namespace RecordStore

theorem MatchesValue.refl (v : Json) : MatchesValue (some v) v :=
  .inl ⟨v, rfl, .inl (Json.beq_self v)⟩

theorem matchesValue_none {v : Json} : MatchesValue none v ↔ v = .null := by
  simp [MatchesValue]

/-- Nothing stands below a default. -/
theorem Field.child?_default (f : Field) (step : String) : f.default.child? step = none := by
  rw [Field.default]
  split
  · rw [Json.child?, Option.bind_eq_none_iff]
    exact fun _ _ => rfl
  · rfl

namespace Record

section Document

variable (t : RecordType) {r : Record} (ids : IdSupply)

/-- Nothing stands below what the document of a record holds under the names that the record
brings nothing for. -/
theorem child?_encode (hr : r.fields.Sorted) {name : String} {v : Json}
    (hname : name ∉ r.fields.keys) (hv : (encode t r ids).1.get? name = some v)
    (step : String) : v.child? step = none := by
  have hmem : name ∈ (toDocument t r (assignId t r ids).1).keys :=
    List.mem_map_of_mem (Entries.mem_of_get? hv)
  rcases (mem_keys_toDocument t r _).mp hmem with rfl | ⟨hsupplied, -⟩ | ⟨f, hf, rfl⟩
  · obtain rfl := Option.some_inj.mp (hv.symm.trans (get?_toDocument_idKey t r _))
    rfl
  · exact absurd hsupplied hname
  · rw [get?_encode t hr ids hf, Entries.get?_eq_none_iff.mpr hname, Option.getD_none,
      Option.some_inj] at hv
    rw [← hv, Field.child?_default]

/-- A name with a point leads nowhere in the document of a record that brings only the field of
that name. -/
theorem resolve?_encode_alone {name : String} {v : Json} (hpoint : '.' ∈ name.toList)
    (hr : r.fields = [(name, v)]) : (encode t r ids).1.resolve? name = none := by
  have hsorted : r.fields.Sorted := by
    rw [hr]
    exact List.pairwise_singleton _ _
  obtain ⟨first, rest, hfirst, hname⟩ := Path.exists_eq_append_point hpoint
  -- The path starts at a key without a point, so not at the field.
  have hmissing : first ∉ r.fields.keys := by
    rw [hr]
    intro hmem
    obtain rfl := List.mem_singleton.mp hmem
    exact hfirst hpoint
  rw [hname]
  exact Document.resolve?_append_point_eq_none hfirst rest fun _ hw =>
    child?_encode t ids hsorted hmissing hw

end Document

end Record

namespace Filter

variable (t : RecordType)

/-- A filter of one value selects nothing under the name `$or` and everything under the names
of the other two operators.  Under any other name it selects the documents that match the value
at the path. -/
theorem selects_anyOf_singleton (name : String) (v : Json) (d : Document) :
    Query.selects d ((Filter.matching [(name, .anyOf [v])]).query t) = true ↔
      name ≠ "$or" ∧ (name = "$and" ∨ name = "$nor" ∨ MatchesValue (d.resolve? name) v) := by
  rw [query_matching, Query.selects_singleton]
  by_cases hand : name = "$and"
  · subst hand
    exact iff_of_true rfl ⟨by decide, .inl rfl⟩
  by_cases hor : name = "$or"
  · subst hor
    exact iff_of_false Bool.false_ne_true fun h => h.1 rfl
  by_cases hnor : name = "$nor"
  · subst hnor
    exact iff_of_true rfl ⟨by decide, .inr (.inl rfl)⟩
  rw [Query.meets_of_path d hand hor hnor, holds_anyOf_singleton, Condition.equals_iff]
  simp only [ne_eq, hand, hor, hnor, not_false_eq_true, true_and, false_or]

section Field

variable {t} {f : Field} (ids : IdSupply) {r : Record} {v : Json}

/-- A record that brings only a field with a point in its name, or one named `$or`, is not
found by its value unless that is null. -/
theorem selects_encode_alone (hname : '.' ∈ f.name.toList ∨ f.name = "$or")
    (hr : r.fields = [(f.name, v)]) (hv : v ≠ .null) :
    Query.selects (Record.encode t r ids).1
      ((Filter.matching [(f.name, .anyOf [v])]).query t) = false := by
  rw [← Bool.not_eq_true, selects_anyOf_singleton]
  rintro ⟨hor, hmet⟩
  have hpoint : '.' ∈ f.name.toList := hname.resolve_right hor
  rcases hmet with hand | hnor | hmatches
  · rw [hand] at hpoint
    exact absurd hpoint (by decide)
  · rw [hnor] at hpoint
    exact absurd hpoint (by decide)
  · rw [Record.resolve?_encode_alone t ids hpoint hr, matchesValue_none] at hmatches
    exact hv hmatches

/-- All records are found by the values that they hold under a field, just if there is no point
in its name and it is not named `$or`.  Under the other names a record that brings nothing else
is not found by its value, unless that is null. -/
theorem selects_encode (hf : f ∈ t.fields) :
    ((∀ (r : Record) (v : Json), r.fields.Sorted → r.fields.get? f.name = some v →
        Query.selects (Record.encode t r ids).1
          ((Filter.matching [(f.name, .anyOf [v])]).query t) = true) ↔
      '.' ∉ f.name.toList ∧ f.name ≠ "$or") ∧
    ('.' ∈ f.name.toList ∨ f.name = "$or" →
      ∀ (r : Record) (v : Json), r.fields = [(f.name, v)] → v ≠ .null →
        Query.selects (Record.encode t r ids).1
          ((Filter.matching [(f.name, .anyOf [v])]).query t) = false) := by
  refine ⟨⟨fun hfound => ?_, ?_⟩, fun hname r v hr hv => selects_encode_alone ids hname hr hv⟩
  · by_contra hname
    rw [not_and_or, not_not, not_not] at hname
    let r : Record := { fields := [(f.name, .bool true)] }
    have hget : r.fields.get? f.name = some (.bool true) := if_pos rfl
    have hlost := selects_encode_alone (t := t) ids (r := r) hname rfl Json.noConfusion
    rw [hfound r _ (List.pairwise_singleton _ _) hget] at hlost
    exact Bool.noConfusion hlost
  · rintro ⟨hpoint, hor⟩ r v hr hv
    rw [selects_anyOf_singleton, Document.resolve?_of_notMem _ hpoint,
      Record.get?_encode t hr ids hf, hv, Option.getD_some]
    exact ⟨hor, .inr (.inr (MatchesValue.refl v))⟩

end Field

/-- A name that starts like an operator, and is none. -/
theorem selects_encode_dollar :
    let user : RecordType :=
      { name := "user", fields := [{ name := "$ref" }, { name := "home.city" }]
        nodup := by decide, unreserved := by decide }
    let ids : IdSupply := { generate := fun _ type => "new-" ++ type }
    { name := "$ref" } ∈ user.fields ∧
      ∀ (r : Record) (v : Json), r.fields.Sorted → r.fields.get? "$ref" = some v →
        Query.selects (Record.encode user r ids).1
          ((Filter.matching [("$ref", .anyOf [v])]).query user) = true := by
  intro user ids
  have hf : { name := "$ref" } ∈ user.fields := List.mem_cons_self
  exact ⟨hf, (selects_encode ids hf).1.mpr ⟨by decide, by decide⟩⟩

/-- A record that has both values in its document, and is found by neither. -/
theorem selects_encode_lost :
    let user : RecordType :=
      { name := "user", fields := [{ name := "home.city" }, { name := "$or" }]
        nodup := by decide, unreserved := by decide }
    let r : Record :=
      { id := some "u1", fields := [("$or", .bool true), ("home.city", .str "Rome")] }
    let ids : IdSupply := { generate := fun _ type => "new-" ++ type }
    let d := (Record.encode user r ids).1
    d.get? "home.city" = some (.str "Rome") ∧ d.get? "$or" = some (.bool true) ∧
      Query.selects d ((Filter.matching [("home.city", .anyOf [.str "Rome"])]).query user)
        = false ∧
      Query.selects d ((Filter.matching [("$or", .anyOf [.bool true])]).query user) = false := by
  intro user r ids d
  exact ⟨rfl, rfl, by decide +kernel, by decide +kernel⟩

end Filter

end RecordStore
