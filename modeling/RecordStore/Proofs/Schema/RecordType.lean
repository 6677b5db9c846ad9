/-
Lists of fields that a record type may have, and the field that a name stands for.

A list of fields is refused for its first field that is at fault: the name is reserved, or a
field before it has the same name.  While the list is checked, each name can be entered with
its position in an index.  Nothing is entered twice, so the index finds the one field of a
name, which is also the first one that a search of the list comes upon.

* `RecordType.ofFields_eq_ok_iff`, `RecordType.exists_ofFields_iff`,
  `RecordType.ofFields_eq_error_iff` — which lists are accepted, and which fault is reported
  of the others;
* `RecordType.field?_eq_some_iff` — a name stands for the one field that has it;
* `RecordType.positions` — the positions of the fields by name;
* `RecordType.positions_eq_error_iff`, `RecordType.exists_positions` — the index is refused
  where the list is, and otherwise looks up names as a search of the list does.
-/
import RecordStore.Proofs.Entries
import RecordStore.Proofs.Except
import RecordStore.Schema.RecordType

namespace RecordStore.RecordType

/-! ### Lists that are accepted and refused -/

/-- The names of the fields are different and none is reserved. -/
structure Sound (fields : List Field) : Prop where
  nodup : (fields.map Field.name).Nodup
  unreserved : ∀ f ∈ fields, f.name ∉ reservedNames

/-- What is wrong with a field behind other fields. -/
inductive Fault (type : String) (before : List Field) (f : Field) : SchemaError → Prop
  | reserved : f.name ∈ reservedNames → Fault type before f (.reservedField type f.name)
  | duplicate : f.name ∉ reservedNames → f.name ∈ before.map Field.name →
      Fault type before f (.duplicateField type f.name)

/-- The fault of the first field in the list that has one. -/
def FirstFault (type : String) (fields : List Field) (e : SchemaError) : Prop :=
  ∃ before f after, fields = before ++ f :: after ∧ Sound before ∧ Fault type before f e

section Faults

variable {type : String} {seen : List String} {fields before : List Field} {f : Field}
  {e : SchemaError}

theorem sound_iff : Sound fields ↔ firstFault type [] fields = none := by
  rw [firstFault_eq_none_iff]
  constructor
  · rintro ⟨hnodup, hunreserved⟩
    exact ⟨hnodup, fun f hf => ⟨hunreserved f hf, List.not_mem_nil⟩⟩
  · rintro ⟨hnodup, hall⟩
    exact ⟨hnodup, fun f hf => (hall f hf).1⟩

theorem firstFault_singleton_eq_some_iff :
    firstFault type (before.map Field.name).reverse [f] = some e ↔ Fault type before f e := by
  rw [firstFault]
  by_cases hreserved : f.name ∈ reservedNames
  · rw [if_pos hreserved, Option.some_inj]
    constructor
    · rintro rfl
      exact .reserved hreserved
    · rintro (_ | ⟨hfree, _⟩)
      · rfl
      · exact absurd hreserved hfree
  · rw [if_neg hreserved]
    by_cases hseen : f.name ∈ before.map Field.name
    · rw [if_pos (List.mem_reverse.mpr hseen), Option.some_inj]
      constructor
      · rintro rfl
        exact .duplicate hreserved hseen
      · rintro (h | _)
        · exact absurd h hreserved
        · rfl
    · rw [if_neg (mt List.mem_reverse.mp hseen)]
      refine iff_of_false (by simp [firstFault]) ?_
      rintro (h | ⟨_, h⟩)
      · exact hreserved h
      · exact hseen h

/-- Fields without a fault are passed by, and their names are known from there on. -/
theorem firstFault_append (h : firstFault type seen before = none) :
    firstFault type seen (before ++ fields) =
      firstFault type ((before.map Field.name).reverse ++ seen) fields := by
  induction before generalizing seen with
  | nil => rfl
  | cons g rest ih =>
    rw [firstFault] at h
    split at h
    · exact absurd h (by simp)
    · split at h
      · exact absurd h (by simp)
      · rename_i hfree hfresh
        rw [List.cons_append, firstFault, if_neg hfree, if_neg hfresh, ih h, List.map_cons,
          List.reverse_cons, List.append_assoc, List.singleton_append]

theorem firstFault_cons_of_singleton (after : List Field)
    (h : firstFault type seen [f] = some e) : firstFault type seen (f :: after) = some e := by
  rw [firstFault] at h ⊢
  split
  · rename_i hreserved
    rwa [if_pos hreserved] at h
  · rename_i hfree
    rw [if_neg hfree] at h
    split
    · rename_i hseen
      rwa [if_pos hseen] at h
    · rename_i hfresh
      rw [if_neg hfresh] at h
      exact absurd h (by simp [firstFault])

/-- A fault that is found is that of a field behind fields that have none. -/
theorem exists_of_firstFault (h : firstFault type seen fields = some e) :
    ∃ before f after, fields = before ++ f :: after ∧ firstFault type seen before = none ∧
      firstFault type ((before.map Field.name).reverse ++ seen) [f] = some e := by
  induction fields generalizing seen with
  | nil => exact absurd h (by simp [firstFault])
  | cons g rest ih =>
    by_cases hhere : firstFault type seen [g] = none
    · have hrest : firstFault type seen ([g] ++ rest) = _ := firstFault_append hhere
      rw [List.singleton_append, h] at hrest
      obtain ⟨before, f, after, rfl, hbefore, hf⟩ := ih hrest.symm
      refine ⟨g :: before, f, after, rfl, ?_, ?_⟩
      · rw [← List.singleton_append, firstFault_append hhere, hbefore]
      · rwa [List.map_cons, List.reverse_cons, List.append_assoc]
    · obtain ⟨e', he'⟩ := Option.ne_none_iff_exists'.mp hhere
      rw [firstFault_cons_of_singleton rest he', Option.some_inj] at h
      exact ⟨[], g, rest, rfl, rfl, h ▸ he'⟩

theorem firstFault_eq_some_iff :
    firstFault type [] fields = some e ↔ FirstFault type fields e := by
  constructor
  · intro h
    obtain ⟨before, f, after, rfl, hbefore, hf⟩ := exists_of_firstFault h
    rw [List.append_nil] at hf
    exact ⟨before, f, after, rfl, sound_iff.mpr hbefore, firstFault_singleton_eq_some_iff.mp hf⟩
  · rintro ⟨before, f, after, rfl, hbefore, hf⟩
    rw [firstFault_append (sound_iff.mp hbefore), List.append_nil]
    exact firstFault_cons_of_singleton after (firstFault_singleton_eq_some_iff.mpr hf)

end Faults

/-! ### Record types -/

section OfFields

variable {name : String} {fields : List Field} {t : RecordType} {e : SchemaError}

theorem sound_fields (t : RecordType) : Sound t.fields := ⟨t.nodup, t.unreserved⟩

theorem ofFields_eq_ok_iff :
    ofFields name fields = .ok t ↔ t.name = name ∧ t.fields = fields := by
  obtain ⟨name', fields', hnodup, hunreserved⟩ := t
  rw [ofFields]
  split
  · rename_i e he
    refine iff_of_false (by simp) ?_
    rintro ⟨-, rfl⟩
    exact absurd (sound_iff.mp ⟨hnodup, hunreserved⟩) (by rw [he]; simp)
  · constructor
    · intro h
      cases h
      exact ⟨rfl, rfl⟩
    · rintro ⟨rfl, rfl⟩
      rfl

theorem ofFields_eq_error_iff :
    ofFields name fields = .error e ↔ FirstFault name fields e := by
  rw [← firstFault_eq_some_iff, ofFields]
  split
  · rename_i e' he
    rw [he, Option.some_inj]
    exact ⟨fun h => Except.error.inj h, fun h => congrArg Except.error h⟩
  · rename_i hnone
    exact iff_of_false (by simp) (by rw [hnone]; simp)

theorem exists_ofFields_iff : (∃ t, ofFields name fields = .ok t) ↔ Sound fields := by
  constructor
  · rintro ⟨t, ht⟩
    obtain ⟨-, rfl⟩ := ofFields_eq_ok_iff.mp ht
    exact t.sound_fields
  · rintro ⟨hnodup, hunreserved⟩
    exact ⟨⟨name, fields, hnodup, hunreserved⟩, ofFields_eq_ok_iff.mpr ⟨rfl, rfl⟩⟩

end OfFields

/-! ### Fields by name -/

section Lookup

variable (t : RecordType)

theorem eq_of_name_eq {f g : Field} (hf : f ∈ t.fields) (hg : g ∈ t.fields)
    (h : f.name = g.name) : f = g :=
  List.inj_on_of_nodup_map t.nodup hf hg h

theorem name_ne_idKey {f : Field} (hf : f ∈ t.fields) : f.name ≠ Record.idKey := by
  intro h
  exact t.unreserved f hf (h ▸ List.mem_cons_self)

theorem name_ne_documentIdKey {f : Field} (hf : f ∈ t.fields) : f.name ≠ Document.idKey := by
  intro h
  exact t.unreserved f hf (h ▸ List.mem_cons_of_mem _ List.mem_cons_self)

theorem field?_of_mem {f : Field} (hf : f ∈ t.fields) : t.field? f.name = some f := by
  cases hfound : t.field? f.name with
  | none => exact absurd hf (by simpa [field?] using List.find?_eq_none.mp hfound f)
  | some g =>
    have hname : g.name = f.name := by simpa using List.find?_some hfound
    rw [t.eq_of_name_eq (List.mem_of_find?_eq_some hfound) hf hname]

/-- A name stands for the one field of that name. -/
theorem field?_eq_some_iff {name : String} {f : Field} :
    t.field? name = some f ↔ f ∈ t.fields ∧ f.name = name := by
  constructor
  · intro h
    exact ⟨List.mem_of_find?_eq_some h, by simpa using List.find?_some h⟩
  · rintro ⟨hf, rfl⟩
    exact t.field?_of_mem hf

theorem contains_iff {name : String} :
    t.contains name = true ↔ ∃ f ∈ t.fields, f.name = name := by
  simp only [contains, Option.isSome_iff_exists, field?_eq_some_iff]

theorem isArray_iff {name : String} :
    t.isArray name = true ↔ ∃ f ∈ t.fields, f.name = name ∧ f.isArray = true := by
  simp only [isArray, Option.any_eq_true, field?_eq_some_iff, and_assoc]

end Lookup

/-! ### The index of the names -/

/-- Enters the name of a field with its position, unless it is reserved or has been entered. -/
def enter (type : String) (positions : Entries Nat) (field : Field × Nat) :
    Except SchemaError (Entries Nat) :=
  if field.1.name ∈ reservedNames then .error (.reservedField type field.1.name)
  else if positions.contains field.1.name then .error (.duplicateField type field.1.name)
  else .ok (positions.insert field.1.name field.2)

/-- The positions of the fields by name, entered one after the other. -/
def positions (type : String) (fields : List Field) : Except SchemaError (Entries Nat) :=
  fields.zipIdx.foldlM (enter type) []

/-- An index gives the first position of each name. -/
def Indexes (positions : Entries Nat) (fields : List Field) : Prop :=
  ∀ name, positions.get? name = fields.findIdx? (·.name = name)

section Index

variable {type : String} {index : Entries Nat} {before : List Field}

theorem Indexes.contains_iff (h : Indexes index before) {name : String} :
    index.contains name = true ↔ name ∈ before.map Field.name := by
  rw [Entries.contains, h, List.findIdx?_isSome, List.any_eq_true, List.mem_map]
  simp only [decide_eq_true_eq]

theorem Indexes.insert (h : Indexes index before) {f : Field}
    (hfresh : index.contains f.name = false) :
    Indexes (index.insert f.name before.length) (before ++ [f]) := by
  intro name
  rw [Entries.get?_insert, List.findIdx?_append, List.findIdx?_singleton, ← h]
  by_cases hname : f.name = name
  · subst hname
    have hnone : index.get? f.name = none := by
      rwa [Entries.contains, Option.isSome_eq_false_iff, Option.isNone_iff_eq_none] at hfresh
    simp [hnone]
  · simp [hname]

/-- The names that have been entered are those that the search for faults has seen. -/
theorem foldlM_enter (h : Indexes index before) (fields : List Field) :
    (∀ e, firstFault type (before.map Field.name).reverse fields = some e →
      (fields.zipIdx before.length).foldlM (enter type) index = .error e) ∧
    (firstFault type (before.map Field.name).reverse fields = none →
      ∃ index', (fields.zipIdx before.length).foldlM (enter type) index = .ok index' ∧
        Indexes index' (before ++ fields)) := by
  induction fields generalizing index before with
  | nil => exact ⟨fun _ he => absurd he (by simp [firstFault]), fun _ => ⟨index, rfl, by simpa⟩⟩
  | cons f rest ih =>
    rw [List.zipIdx_cons, List.foldlM_cons, enter, firstFault]
    by_cases hreserved : f.name ∈ reservedNames
    · rw [if_pos hreserved, if_pos hreserved]
      exact ⟨fun e he => congrArg Except.error (Option.some_inj.mp he), fun h => absurd h (by simp)⟩
    · rw [if_neg hreserved, if_neg hreserved]
      by_cases hseen : index.contains f.name = true
      · rw [if_pos hseen, if_pos (List.mem_reverse.mpr (h.contains_iff.mp hseen))]
        exact ⟨fun e he => congrArg Except.error (Option.some_inj.mp he),
          fun h => absurd h (by simp)⟩
      · have hfresh := mt List.mem_reverse.mp (mt h.contains_iff.mpr hseen)
        rw [if_neg hseen, if_neg hfresh]
        have hrest := ih (h.insert (Bool.not_eq_true _ ▸ hseen))
        rwa [List.map_append, List.map_singleton, List.reverse_append, List.reverse_singleton,
          List.singleton_append, List.length_append, List.length_singleton, List.append_assoc,
          List.singleton_append] at hrest

/-- Where the list is accepted, the index looks names up as a search of the list does. -/
theorem exists_positions (t : RecordType) :
    ∃ index, positions t.name t.fields = .ok index ∧
      ∀ name, t.field? name = (index.get? name).bind (t.fields[·]?) ∧
        t.contains name = index.contains name := by
  have hstart : Indexes [] [] := fun _ => rfl
  obtain ⟨index, hindex, hall⟩ := (foldlM_enter hstart t.fields).2 (sound_iff.mp t.sound_fields)
  refine ⟨index, hindex, fun name => ?_⟩
  have hfield : t.field? name = (index.get? name).bind (t.fields[·]?) := by
    rw [hall, field?, List.find?_eq_bind_findIdx?_getElem?]
    rfl
  refine ⟨hfield, ?_⟩
  rw [Bool.eq_iff_iff, contains_iff, hall.contains_iff, List.mem_map]
  rfl

/-- Where the list is refused, so is the index, and for the same fault. -/
theorem positions_eq_error_iff {fields : List Field} {e : SchemaError} :
    positions type fields = .error e ↔ FirstFault type fields e := by
  have hstart : Indexes [] [] := fun _ => rfl
  have hloop := @foldlM_enter type _ _ hstart fields
  rw [← firstFault_eq_some_iff]
  constructor
  · intro h
    cases hfault : firstFault type [] fields with
    | none =>
      obtain ⟨index, hindex, -⟩ := hloop.2 hfault
      exact absurd (h.symm.trans hindex) (by simp)
    | some e' => exact congrArg some (Except.error.inj ((hloop.1 e' hfault).symm.trans h))
  · exact hloop.1 e

end Index

end RecordStore.RecordType
