/-
Schemas however they come about.

A schema grows from nothing by one type after the other, or is loaded as a whole.  A type is
only ever put under its own name, and never in the place of another.  So a schema that was
loaded has the types that its document declares, and a document that can be parsed is refused
for one reason alone: one of its lists of fields is.  The error is that of the least name of
such a list, since the names are gone through in their order.

* `Schema.attempt` — the schema after an attempt to add a type;
* `Schema.Built` — the schemas that can come about;
* `Schema.IsEntry` — what may be relied on of a type under a name;
* `Schema.LoadsAs` — how loading ends for a document with these declarations;
* `Schema.built_sound` — all of it, for every way to come about.
-/
import RecordStore.Proofs.Schema.RecordType
import RecordStore.Schema.Reader

namespace RecordStore.Schema

/-! ### One type more -/

/-- Makes a type of a name and fields, and adds it. -/
def declare (s : Schema) (d : String × List Field) : Except SchemaError Schema := do
  s.register (← RecordType.ofFields d.1 d.2)

/-- Whether a type could be added, and the schema after that. -/
def attempt (s : Schema) (t : RecordType) : Except SchemaError Unit × Schema :=
  match s.register t with
  | .ok s' => (.ok (), s')
  | .error e => (.error e, s)

section Steps

variable {s s' : Schema} {t : RecordType} {d : String × List Field} {e : SchemaError}

theorem register_eq_ok_iff :
    s.register t = .ok s' ↔
      s.contains t.name = false ∧ s' = { types := s.types.insert t.name t } := by
  rw [register]
  split
  · rename_i htaken
    exact iff_of_false (by simp) fun h => absurd (htaken.symm.trans h.1) (by simp)
  · rename_i hfree
    rw [Bool.not_eq_true] at hfree
    exact ⟨fun h => ⟨hfree, (Except.ok.inj h).symm⟩, fun h => congrArg Except.ok h.2.symm⟩

theorem register_eq_error_iff :
    s.register t = .error e ↔ s.contains t.name = true ∧ e = .duplicateType t.name := by
  rw [register]
  split
  · rename_i htaken
    exact ⟨fun h => ⟨htaken, (Except.error.inj h).symm⟩, fun h => congrArg Except.error h.2.symm⟩
  · rename_i hfree
    exact iff_of_false (by simp) fun h => hfree h.1

theorem type?_of_register (h : s.register t = .ok s') (name : String) :
    s'.type? name = if t.name = name then some t else s.type? name := by
  obtain ⟨-, rfl⟩ := register_eq_ok_iff.mp h
  exact Entries.get?_insert ..

theorem attempt_of_register_ok (h : s.register t = .ok s') : s.attempt t = (.ok (), s') := by
  rw [attempt, h]

theorem attempt_of_register_error (h : s.register t = .error e) :
    s.attempt t = (.error e, s) := by
  rw [attempt, h]

theorem attempt_eq_error_iff :
    (s.attempt t).1 = .error e ↔ s.contains t.name = true ∧ e = .duplicateType t.name := by
  rw [← register_eq_error_iff]
  cases h : s.register t with
  | ok s' => exact iff_of_false (by rw [attempt_of_register_ok h]; simp) (by simp)
  | error e' => rw [attempt_of_register_error h]; simp

/-- A type whose name is free is added under its name, and all others stay. -/
theorem attempt_of_free (h : s.contains t.name = false) :
    (s.attempt t).1 = .ok () ∧
      ∀ name, (s.attempt t).2.type? name = if t.name = name then some t else s.type? name := by
  have hregister : s.register t = .ok { types := s.types.insert t.name t } :=
    register_eq_ok_iff.mpr ⟨h, rfl⟩
  rw [attempt_of_register_ok hregister]
  exact ⟨rfl, type?_of_register hregister⟩

theorem declare_eq_ok_iff :
    s.declare d = .ok s' ↔ ∃ t, RecordType.ofFields d.1 d.2 = .ok t ∧ s.register t = .ok s' :=
  Except.bind_eq_ok_iff

end Steps

/-! ### Declarations in a row -/

section Declarations

variable {s s' : Schema} {declarations : Entries (List Field)} {e : SchemaError}

/-- A row of declarations adds the types that it declares, and no others. -/
theorem type?_foldlM_declare (h : declarations.foldlM declare s = .ok s') (name : String) :
    s'.type? name = (s.type? name).or
      ((declarations.get? name).bind fun fields => (RecordType.ofFields name fields).toOption) := by
  induction declarations generalizing s with
  | nil =>
    obtain rfl : s = s' := Except.ok.inj h
    simp
  | cons d rest ih =>
    rw [List.foldlM_cons, Except.bind_eq_ok_iff] at h
    obtain ⟨middle, hfirst, hrest⟩ := h
    obtain ⟨t, ht, hregister⟩ := declare_eq_ok_iff.mp hfirst
    obtain ⟨hname, -⟩ := RecordType.ofFields_eq_ok_iff.mp ht
    rw [ih hrest, type?_of_register hregister, hname, Entries.get?_cons]
    by_cases hd : d.1 = name
    · subst hd
      have hnone : s.type? d.1 = none := by
        have hfree := (register_eq_ok_iff.mp hregister).1
        rwa [hname, contains, Entries.contains, Option.isSome_eq_false_iff,
          Option.isNone_iff_eq_none] at hfree
      rw [if_pos rfl, if_pos rfl, hnone, Option.bind_some, ht]
      rfl
    · rw [if_neg hd, if_neg hd]

/-- Where all names are new, it only matters that each list of fields makes a type. -/
theorem foldlM_declare_eq (hnodup : declarations.keys.Nodup)
    (hnew : ∀ name ∈ declarations.keys, s.contains name = false) :
    declarations.foldlM declare s =
      (declarations.mapM fun d => RecordType.ofFields d.1 d.2).map fun types =>
        { types := s.types.insertAll (types.map fun t => (t.name, t)) } := by
  induction declarations generalizing s with
  | nil => rfl
  | cons d rest ih =>
    rw [Entries.keys, List.map_cons, List.nodup_cons] at hnodup
    rw [Entries.keys, List.map_cons, List.forall_mem_cons] at hnew
    rw [List.foldlM_cons, List.mapM_cons, declare]
    cases ht : RecordType.ofFields d.1 d.2 with
    | error e => rfl
    | ok t =>
      obtain ⟨hname, -⟩ := RecordType.ofFields_eq_ok_iff.mp ht
      have hregister : s.register t = .ok { types := s.types.insert t.name t } :=
        register_eq_ok_iff.mpr ⟨by rw [hname, hnew.1], rfl⟩
      have hrest : ∀ name ∈ Entries.keys rest,
          contains { types := s.types.insert t.name t } name = false := by
        intro name hmem
        have hne : t.name ≠ name := by
          rintro rfl
          exact hnodup.1 (hname ▸ hmem)
        rw [contains, Entries.contains, Entries.get?_insert, if_neg hne]
        exact hnew.2 name hmem
      show (s.register t >>= fun s' => rest.foldlM declare s') = _
      rw [hregister]
      show rest.foldlM declare _ = _
      rw [ih hnodup.2 hrest]
      cases rest.mapM fun d => RecordType.ofFields d.1 d.2 <;> rfl

theorem ofDeclarations_eq (hnodup : declarations.keys.Nodup) :
    ofDeclarations declarations =
      (declarations.mapM fun d => RecordType.ofFields d.1 d.2).map fun types =>
        { types := Entries.ofList (types.map fun t => (t.name, t)) } :=
  foldlM_declare_eq hnodup fun _ _ => rfl

theorem type?_ofDeclarations (h : ofDeclarations declarations = .ok s) (name : String) :
    s.type? name = (declarations.get? name).bind fun fields =>
      (RecordType.ofFields name fields).toOption :=
  type?_foldlM_declare h name

theorem exists_ofDeclarations_iff (hnodup : declarations.keys.Nodup) :
    (∃ s, ofDeclarations declarations = .ok s) ↔
      ∀ d ∈ declarations, ∃ t, RecordType.ofFields d.1 d.2 = .ok t := by
  rw [ofDeclarations_eq hnodup, ← Except.exists_mapM_iff]
  simp only [Except.map_eq_ok_iff]
  exact ⟨fun ⟨_, types, h, _⟩ => ⟨types, h⟩, fun ⟨types, h⟩ => ⟨_, types, h, rfl⟩⟩

/-- In the order of the names, the first list that is refused is that of the least name. -/
theorem ofDeclarations_eq_error_iff (hsorted : declarations.Sorted) :
    ofDeclarations declarations = .error e ↔
      ∃ d ∈ declarations, RecordType.ofFields d.1 d.2 = .error e ∧
        ∀ d' ∈ declarations, d'.1 < d.1 → ∃ t, RecordType.ofFields d'.1 d'.2 = .ok t := by
  rw [ofDeclarations_eq hsorted.nodup_keys, Except.map_eq_error_iff, Except.mapM_eq_error_iff]
  constructor
  · rintro ⟨before, d, after, rfl, hbefore, hd⟩
    obtain ⟨-, htail, -⟩ := List.pairwise_append.mp hsorted
    refine ⟨d, List.mem_append_right _ List.mem_cons_self, hd, fun d' hd' hlt => ?_⟩
    rcases List.mem_append.mp hd' with hmem | hmem
    · exact hbefore d' hmem
    -- The names of `d` and of what stands behind it are not less than that of `d`.
    · rcases List.mem_cons.mp hmem with rfl | hafter
      · exact absurd hlt (String.lt_irrefl _)
      · exact absurd hlt (String.lt_asymm (List.rel_of_pairwise_cons htail hafter))
  · rintro ⟨d, hmem, hd, hall⟩
    obtain ⟨before, after, rfl⟩ := List.mem_iff_append.mp hmem
    obtain ⟨-, -, hless⟩ := List.pairwise_append.mp hsorted
    refine ⟨before, d, after, rfl, fun d' hd' => ?_, hd⟩
    exact hall d' (List.mem_append_left _ hd') (hless d' hd' d List.mem_cons_self)

end Declarations

/-! ### Ways to come about -/

/-- The schemas that can come about: by attempts to add types that have been made of a name
and fields, and by loading a text or a file. -/
inductive Built : Schema → Prop
  | empty : Built Schema.empty
  | attempt {s : Schema} {t : RecordType} {name : String} {fields : List Field} :
      Built s → RecordType.ofFields name fields = .ok t → Built (s.attempt t).2
  | loaded {s : Schema} {location text : String} : load location text = .ok s → Built s
  | loadedFile {s : Schema} {location : String} {contents : Option ByteArray} :
      loadFile location contents = .ok s → Built s

/-- What may be relied on of a type that is found under a name: it has that name, and each
name of a field stands for one field, which a search of the list finds as does the index. -/
structure IsEntry (name : String) (t : RecordType) : Prop where
  name_eq : t.name = name
  sound : RecordType.Sound t.fields
  field?_eq_some_iff : ∀ n f, t.field? n = some f ↔ f ∈ t.fields ∧ f.name = n
  contains_iff : ∀ n, t.contains n = true ↔ ∃ f ∈ t.fields, f.name = n
  isArray_iff : ∀ n, t.isArray n = true ↔ ∃ f ∈ t.fields, f.name = n ∧ f.isArray = true
  indexed : ∃ index, RecordType.positions t.name t.fields = .ok index ∧
    ∀ n, t.field? n = (index.get? n).bind (t.fields[·]?) ∧ t.contains n = index.contains n

/-- How loading ends where the document declares these lists of fields: it fails just if one
of them is refused, with the error of the least name of such a list, and otherwise gives the
types that are declared. -/
structure LoadsAs (declarations : Entries (List Field)) (outcome : Except SchemaError Schema) :
    Prop where
  fails_iff : (∃ e, outcome = .error e) ↔
    ∃ d ∈ declarations, ∃ e, RecordType.ofFields d.1 d.2 = .error e
  error_iff : ∀ e, outcome = .error e ↔
    ∃ d ∈ declarations, RecordType.ofFields d.1 d.2 = .error e ∧
      ∀ d' ∈ declarations, d'.1 < d.1 → ∃ t, RecordType.ofFields d'.1 d'.2 = .ok t
  type?_eq : ∀ s, outcome = .ok s → ∀ name,
    s.type? name = (declarations.get? name).bind fun fields =>
      (RecordType.ofFields name fields).toOption
  ne_duplicateType : ∀ type, outcome ≠ .error (.duplicateType type)

theorem isEntry {name : String} {t : RecordType} (h : t.name = name) : IsEntry name t where
  name_eq := h
  sound := t.sound_fields
  field?_eq_some_iff _ _ := t.field?_eq_some_iff
  contains_iff _ := t.contains_iff
  isArray_iff _ := t.isArray_iff
  indexed := t.exists_positions

section Loading

variable {s : Schema} {declarations : Entries (List Field)}

theorem loadsAs_ofDeclarations (hsorted : declarations.Sorted) :
    LoadsAs declarations (ofDeclarations declarations) where
  fails_iff := by
    rw [Except.exists_eq_error_iff, exists_ofDeclarations_iff hsorted.nodup_keys]
    simp only [Except.exists_eq_error_iff, not_forall, exists_prop]
  error_iff _ := ofDeclarations_eq_error_iff hsorted
  type?_eq _ h := type?_ofDeclarations h
  ne_duplicateType type h := by
    obtain ⟨d, -, hd, -⟩ := (ofDeclarations_eq_error_iff hsorted).mp h
    obtain ⟨before, f, after, -, -, hfault⟩ := RecordType.ofFields_eq_error_iff.mp hd
    cases hfault

theorem sorted_of_readDeclarations? {source : Source}
    (h : readDeclarations? source = some declarations) : declarations.Sorted := by
  unfold readDeclarations? at h
  split at h
  · obtain ⟨pairs, -, rfl⟩ := Option.map_eq_some_iff.mp h
    exact Entries.sorted_ofList pairs
  · exact absurd h (by simp)

theorem sorted_of_loadText {text : String}
    (h : loadText readDeclarations? text = .ok declarations) : declarations.Sorted := by
  rw [loadText] at h
  split at h
  · split at h
    · rename_i hread
      exact sorted_of_readDeclarations? (Except.ok.inj h ▸ hread)
    · exact absurd h (by simp)
  · exact absurd h (by simp)

theorem sorted_of_loadFile {contents : Option ByteArray}
    (h : RecordStore.loadFile readDeclarations? contents = .ok declarations) :
    declarations.Sorted := by
  rw [RecordStore.loadFile] at h
  split at h
  · exact sorted_of_loadText h
  · exact absurd h (by simp)

theorem ofLoaded_eq_ok_iff {location : String} {loaded : Except LoadFault (Entries (List Field))} :
    ofLoaded location loaded = .ok s ↔
      ∃ declarations, loaded = .ok declarations ∧ ofDeclarations declarations = .ok s := by
  cases loaded with
  | ok declarations => exact ⟨fun h => ⟨_, rfl, h⟩, fun ⟨_, heq, h⟩ => Except.ok.inj heq ▸ h⟩
  | error fault => exact iff_of_false (by simp [ofLoaded]) (by simp)

end Loading

theorem Built.name_eq {s : Schema} (h : Built s) {name : String} {t : RecordType}
    (ht : s.type? name = some t) : t.name = name := by
  have hloaded : ∀ {s location loaded}, ofLoaded location loaded = .ok s →
      s.type? name = some t → t.name = name := by
    intro s location loaded hs ht
    obtain ⟨declarations, -, hdeclared⟩ := ofLoaded_eq_ok_iff.mp hs
    rw [type?_ofDeclarations hdeclared] at ht
    obtain ⟨fields, -, hfields⟩ := Option.bind_eq_some_iff.mp ht
    exact (RecordType.ofFields_eq_ok_iff.mp (Except.toOption_eq_some_iff.mp hfields)).1
  induction h with
  | empty => exact absurd ht (by simp [type?, Schema.empty])
  | @attempt s t' _ _ _ _ ih =>
    cases hregister : s.register t' with
    | ok s' =>
      rw [attempt_of_register_ok hregister, type?_of_register hregister] at ht
      split at ht
      · rename_i hname
        exact Option.some_inj.mp ht ▸ hname
      · exact ih ht
    | error e =>
      rw [attempt_of_register_error hregister] at ht
      exact ih ht
  | loaded h => exact hloaded h ht
  | loadedFile h => exact hloaded h ht

/-- However a schema comes about, each of its types is found under its own name, with fields
that are found by their names; a type is made of any list without a fault, and otherwise the
first fault is reported, also by the index; an attempt to add a type fails just if its name
is taken, and then changes nothing, and otherwise adds the type and keeps all others; and a
document that is parsed is loaded as it declares. -/
theorem built_sound :
    (∀ s, Built s → ∀ name t, s.type? name = some t → IsEntry name t) ∧
    (∀ name fields, (∃ t, RecordType.ofFields name fields = .ok t) ↔ RecordType.Sound fields) ∧
    (∀ name fields t, RecordType.ofFields name fields = .ok t →
      t.name = name ∧ t.fields = fields) ∧
    (∀ name fields e, RecordType.ofFields name fields = .error e ↔
      RecordType.FirstFault name fields e) ∧
    (∀ name fields e, RecordType.positions name fields = .error e ↔
      RecordType.FirstFault name fields e) ∧
    (∀ s t e, (attempt s t).1 = .error e ↔
      s.contains t.name = true ∧ e = .duplicateType t.name) ∧
    (∀ s t e, (attempt s t).1 = .error e → (attempt s t).2 = s) ∧
    (∀ s t, s.contains t.name = false → (attempt s t).1 = .ok () ∧
      ∀ name, (attempt s t).2.type? name = if t.name = name then some t else s.type? name) ∧
    (∀ location text declarations, loadText readDeclarations? text = .ok declarations →
      LoadsAs declarations (load location text)) ∧
    (∀ location contents declarations,
      RecordStore.loadFile readDeclarations? contents = .ok declarations →
      LoadsAs declarations (loadFile location contents)) := by
  refine ⟨fun s hs name t ht => isEntry (hs.name_eq ht),
    fun name fields => RecordType.exists_ofFields_iff,
    fun name fields t => RecordType.ofFields_eq_ok_iff.mp,
    fun name fields e => RecordType.ofFields_eq_error_iff,
    fun name fields e => RecordType.positions_eq_error_iff,
    fun s t e => attempt_eq_error_iff, fun s t e h => ?_, fun s t => attempt_of_free,
    fun location text declarations h => ?_, fun location contents declarations h => ?_⟩
  · cases hregister : s.register t with
    | ok s' => exact absurd h (by rw [attempt_of_register_ok hregister]; simp)
    | error e' => rw [attempt_of_register_error hregister]
  · rw [load, h]
    exact loadsAs_ofDeclarations (sorted_of_loadText h)
  · rw [loadFile, h]
    exact loadsAs_ofDeclarations (sorted_of_loadFile h)

/-- A type that is added twice, and a document with two types that are both refused: the
lists are gone through by name, not as they stand in the text. -/
theorem built_sound_twice :
    let fields : List Field := [{ name := "title" }, { name := "tags", isArray := true }]
    let text := "\x7b\"user\": [[\"name\"], [\"name\"], [\"id\"]], \"post\": [[\"_id\"]]\x7d"
    let declarations : Entries (List Field) :=
      [("post", [{ name := "_id" }]),
        ("user", [{ name := "name" }, { name := "name" }, { name := "id" }])]
    (∃ t, RecordType.ofFields "post" fields = .ok t ∧
      (attempt empty t).1.isOk = true ∧ Built (attempt (attempt empty t).2 t).2 ∧
      (attempt (attempt empty t).2 t).1 = .error (.duplicateType "post") ∧
      (attempt (attempt empty t).2 t).2.type? "post" = some t ∧ IsEntry "post" t) ∧
    RecordType.ofFields "user" [{ name := "name" }, { name := "name" }, { name := "id" }] =
      .error (.duplicateField "user" "name") ∧
    loadText readDeclarations? text = .ok declarations ∧
    LoadsAs declarations (load "<in-memory>" text) ∧
    load "<in-memory>" text = .error (.reservedField "post" "_id") := by
  intro fields text declarations
  obtain ⟨hbuilt, hnew, -, hfault, -, hattempt, hsame, hadded, hload, -⟩ := built_sound
  have hparsed : loadText readDeclarations? text = .ok declarations := by
    dsimp only [text, declarations]
    rfl
  have hloads := hload "<in-memory>" text declarations hparsed
  refine ⟨?_, ?_, hparsed, hloads, ?_⟩
  · obtain ⟨t, ht⟩ := (hnew "post" fields).mpr ⟨by decide, by decide⟩
    obtain ⟨hname, -⟩ := RecordType.ofFields_eq_ok_iff.mp ht
    obtain ⟨hfirst, hfound⟩ := hadded empty t rfl
    have htaken : (attempt empty t).2.contains t.name = true := by
      rw [contains, Entries.contains, ← type?, hfound, if_pos rfl, Option.isSome_some]
    have hsecond : (attempt (attempt empty t).2 t).1 = .error (.duplicateType t.name) :=
      (hattempt _ _ _).mpr ⟨htaken, rfl⟩
    have hbuilt₂ : Built (attempt (attempt empty t).2 t).2 := .attempt (.attempt .empty ht) ht
    have htype : (attempt (attempt empty t).2 t).2.type? "post" = some t := by
      rw [hsame _ _ _ hsecond, hfound, if_pos hname]
    exact ⟨t, ht, by rw [hfirst]; rfl, hbuilt₂, hname ▸ hsecond, htype, hbuilt _ hbuilt₂ _ _ htype⟩
  · refine (hfault _ _ _).mpr
      ⟨[{ name := "name" }], { name := "name" }, [{ name := "id" }], rfl, ?_, ?_⟩
    · exact ⟨by decide, by decide⟩
    · exact .duplicate (by decide) (by decide)
  · refine (hloads.error_iff _).mpr ⟨("post", [{ name := "_id" }]), List.mem_cons_self, ?_, ?_⟩
    · refine (hfault _ _ _).mpr ⟨[], { name := "_id" }, [], rfl, ?_, .reserved (by decide)⟩
      exact ⟨by decide, by decide⟩
    · exact fun d hd hlt => absurd hlt (by revert d; decide)

end RecordStore.Schema
