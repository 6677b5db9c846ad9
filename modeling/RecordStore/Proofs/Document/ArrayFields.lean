/-
What an update makes of array fields.

An update that pulls and pushes becomes a modifier with one operator for each, and the pulls
come first.  An array is put under an operator that stands for its items, and these are then
compared and added one by one.  Any other value is handed over as it is, and so an object can
be read as something else than a value: an object with an array under `$each` is pushed item
by item, and one whose keys are all operators is pulled as a condition.  A pulled value is also
found inside an item that is an array itself.

* `Update.pulled`, `Update.pushed` — the values that an update pulls and pushes;
* `Update.kept`, `Update.added` — what stays of an array, and what comes behind it;
* `Update.kept_eq_filter_iff`, `Update.added_eq_pushed_iff` — when these are the values meant;
* `Update.apply_pulls_pushes` — documents after an update that pulls and pushes.
-/
import RecordStore.Proofs.Document.Modifier
import RecordStore.Proofs.Filter.Values
import RecordStore.Update

namespace RecordStore

namespace Update

/-! ### Values meant and values read -/

/-- The values meant by an entry: the items of an array, or the value itself. -/
def valuesUnder (fields : Document) (field : String) : List Json :=
  match fields.get? field with
  | some (.arr values) => values
  | some v => [v]
  | none => []

/-- The values that an update takes out of a field. -/
def pulled (u : Update) (field : String) : List Json := valuesUnder u.pull field

/-- The values that an update puts into a field. -/
def pushed (u : Update) (field : String) : List Json := valuesUnder u.push field

/-- Whether an item of a field is taken out: if the entry is an array, the item equals one of
its values or is an array that contains one; else it meets the entry as a condition. -/
def takes (u : Update) (field : String) (item : Json) : Bool :=
  match u.pull.get? field with
  | some (.arr values) => values.any (Condition.equals (some item))
  | some v => Condition.holds (some item) v
  | none => false

/-- What stays of the items of a field. -/
def kept (u : Update) (field : String) (items : List Json) : List Json :=
  items.filter fun item => !u.takes field item

/-- What is put behind the items of a field. -/
def added (u : Update) (field : String) : List Json :=
  match u.push.get? field with
  | some (.arr values) => values
  | some v => Modifier.eachItem v
  | none => []

variable {u : Update} {field : String}

theorem holds_spread (item v : Json) :
    Condition.holds (some item) (spread "$in" v) =
      match v with
      | .arr values => values.any (Condition.equals (some item))
      | v => Condition.holds (some item) v := by
  cases v with
  | arr values => exact Condition.holds_operator _ (by decide) (by decide) _
  | _ => rfl

theorem eachItem_spread (v : Json) :
    Modifier.eachItem (spread "$each" v) =
      match v with
      | .arr values => values
      | v => Modifier.eachItem v := by
  cases v with
  | arr values => rfl
  | _ => rfl

/-! ### Pushing -/

/-- An object does not stand in an array inside it. -/
theorem eachItem_eq_singleton_iff (v : Json) :
    Modifier.eachItem v = [v] ↔
      ∀ entries items, v = .obj entries → Entries.get? entries "$each" ≠ some (.arr items) := by
  constructor
  · rintro h entries items rfl hget
    have hitems : Modifier.eachItem (.obj entries) = items := by rw [Modifier.eachItem, hget]
    obtain rfl := hitems.symm.trans h
    have hle := Json.depth_le_depthEntries (Entries.mem_of_get? hget)
    simp only [Json.depth, Json.depthItems] at hle
    omega
  · intro h
    cases v with
    | obj entries =>
      rw [Modifier.eachItem]
      split
      · rename_i items hget
        exact absurd hget (h entries items rfl)
      · rfl
    | _ => rfl

theorem added_eq_pushed_iff :
    u.added field = u.pushed field ↔
      ∀ entries items, u.push.get? field = some (.obj entries) →
        Entries.get? entries "$each" ≠ some (.arr items) := by
  rw [added, pushed, valuesUnder]
  cases h : u.push.get? field with
  | none => exact iff_of_true rfl (by simp)
  | some v =>
    cases v with
    | obj entries =>
      rw [eachItem_eq_singleton_iff]
      simp
    | arr values => exact iff_of_true rfl (by simp)
    | _ => exact iff_of_true rfl (by simp)

/-! ### Pulling -/

theorem equals_item_iff (item v : Json) :
    Condition.equals (some item) v = true ↔
      (item == v) = true ∨ ∃ inner, item = .arr inner ∧ inner.contains v = true := by
  cases item <;> simp [Condition.equals]

/-- A value that is no condition is looked for in the items and inside them. -/
theorem takes_iff_of_plain (item : Json)
    (plain : ∀ entries, u.pull.get? field = some (.obj entries) →
      Condition.isOperators entries = false) :
    u.takes field item = true ↔ ∃ v ∈ u.pulled field,
      (item == v) = true ∨ ∃ inner, item = .arr inner ∧ inner.contains v = true := by
  simp only [← equals_item_iff]
  rw [takes, pulled, valuesUnder]
  cases h : u.pull.get? field with
  | none => simp
  | some v =>
    have hliteral : Condition.holds (some item) v = Condition.equals (some item) v :=
      Filter.holds_is_of_not_operators (some item) fun entries hv => plain entries (hv ▸ h)
    cases v with
    | arr values => simp
    | _ => simp [hliteral]

theorem filter_eq_filter_iff {α : Type} {p q : α → Bool} {xs : List α} :
    xs.filter p = xs.filter q ↔ ∀ x ∈ xs, p x = q x := by
  refine ⟨fun h x hx => ?_, List.filter_congr⟩
  have hmem : x ∈ xs.filter p ↔ x ∈ xs.filter q := by rw [h]
  simp only [List.mem_filter, hx, true_and] at hmem
  exact Bool.eq_iff_iff.mpr hmem

/-- Pulling values that are no condition leaves the items that equal none of them, unless such
an item is an array that contains one. -/
theorem kept_eq_filter_iff (items : List Json)
    (plain : ∀ entries, u.pull.get? field = some (.obj entries) →
      Condition.isOperators entries = false) :
    u.kept field items = items.filter (fun item => !(u.pulled field).contains item) ↔
      ∀ inner, .arr inner ∈ items → (∃ v ∈ u.pulled field, inner.contains v = true) →
        (u.pulled field).contains (.arr inner) = true := by
  have hcontains : ∀ item, (u.pulled field).contains item = true ↔
      ∃ v ∈ u.pulled field, (item == v) = true :=
    fun item => List.contains_iff_exists_mem_beq
  rw [kept, filter_eq_filter_iff]
  constructor
  · rintro h inner hmem ⟨v, hv, hinner⟩
    have htaken : u.takes field (.arr inner) = true :=
      (takes_iff_of_plain _ plain).mpr ⟨v, hv, .inr ⟨inner, rfl, hinner⟩⟩
    have heq := h _ hmem
    rw [htaken] at heq
    simpa using heq
  · intro h item hitem
    refine congrArg _ (Bool.eq_iff_iff.mpr ?_)
    rw [takes_iff_of_plain item plain]
    constructor
    · rintro ⟨v, hv, heq | ⟨inner, rfl, hinner⟩⟩
      · exact (hcontains item).mpr ⟨v, hv, heq⟩
      · exact h inner hitem ⟨v, hv, hinner⟩
    · intro hcontained
      obtain ⟨v, hv, heq⟩ := (hcontains item).mp hcontained
      exact ⟨v, hv, .inl heq⟩

/-- A condition takes out an object just if it takes out the object with that one inside, and
so it does not tell the values pulled from others. -/
theorem exists_kept_ne_filter {entries : Document} (h : u.pull.get? field = some (.obj entries))
    (hoperators : Condition.isOperators entries = true) :
    ∃ items, u.kept field items ≠
      items.filter fun item => !(u.pulled field).contains item := by
  have htakes : ∀ item, u.takes field item = Condition.holds (some item) (.obj entries) := by
    intro item
    rw [takes, h]
  have hpulled : u.pulled field = [.obj entries] := by rw [pulled, valuesUnder, h]
  by_contra hnone
  rw [not_exists_not] at hnone
  have hagree : ∀ item, Condition.holds (some item) (.obj entries) = (item == .obj entries) := by
    intro item
    have hitem := filter_eq_filter_iff.mp (hnone [item]) item List.mem_cons_self
    rw [htakes, hpulled] at hitem
    simpa using hitem
  have hself := hagree (.obj entries)
  have hwrapped := hagree (.obj [("", .obj entries)])
  have hapart : (Json.obj [("", .obj entries)] == .obj entries) = false :=
    (Bool.or_false _).symm.trans (Condition.equals_wrapped (.obj entries))
  rw [Json.beq_self] at hself
  rw [Condition.holds_wrapped hoperators, hself, hapart] at hwrapped
  exact Bool.noConfusion hwrapped

/-! ### Operators -/

theorem kept_of_missing (h : u.pull.get? field = none) (items : List Json) :
    u.kept field items = items := by
  refine List.filter_eq_self.mpr fun item _ => ?_
  rw [takes, h]
  rfl

theorem kept_of_get? {v : Json} (h : u.pull.get? field = some v) (items : List Json) :
    u.kept field items =
      items.filter fun item => !Condition.holds (some item) (spread "$in" v) := by
  refine List.filter_congr fun item _ => ?_
  rw [takes, h, holds_spread]
  cases v <;> rfl

theorem added_of_missing (h : u.push.get? field = none) : u.added field = [] := by
  rw [added, h]

theorem added_of_get? {v : Json} (h : u.push.get? field = some v) :
    u.added field = Modifier.eachItem (spread "$each" v) := by
  rw [added, h, eachItem_spread]
  cases v <;> rfl

/-- The fields of an update hold arrays where they are not missing. -/
def FindsArrays (fields d : Document) : Prop :=
  ∀ field ∈ fields.keys, d.get? field = none ∨ ∃ items, d.get? field = some (.arr items)

section Documents

variable {d : Document}

/-- Pulling changes the arrays that are there. -/
theorem exists_foldlM_pull (nodup : u.pull.keys.Nodup) (hid : Document.idKey ∉ u.pull.keys)
    (harrays : FindsArrays u.pull d) :
    ∃ d', (u.pull.mapValues (spread "$in")).foldlM (Modifier.applyField "$pull") d = .ok d' ∧
      ∀ field, d'.get? field =
        match d.get? field with
        | some (.arr items) => some (.arr (u.kept field items))
        | current => current := by
  have hkeys := Entries.keys_mapValues (spread "$in") u.pull
  rw [← hkeys] at nodup hid
  obtain ⟨d', hok, hget⟩ := Modifier.exists_foldlM_applyField (d := d) "$pull"
    (fun operand current => current.map fun
      | .arr items => .arr (items.filter fun item => !Condition.holds (some item) operand)
      | v => v) nodup hid fun field operand hmem e he => by
    have hfield : field ∈ u.pull.keys := hkeys ▸ List.mem_map.mpr ⟨_, hmem, rfl⟩
    rcases harrays field hfield with hnone | ⟨items, hitems⟩
    · exact ⟨e, by simp only [Modifier.applyOperator, he, hnone], by rw [he, hnone]; rfl⟩
    · refine ⟨_, by simp only [Modifier.applyOperator, he, hitems]; rfl, ?_⟩
      rw [Entries.get?_insert, if_pos rfl, hitems]
      rfl
  refine ⟨d', hok, fun field => ?_⟩
  rw [hget, Entries.get?_mapValues]
  cases hpull : u.pull.get? field with
  | none =>
    cases d.get? field with
    | none => rfl
    | some v =>
      cases v with
      | arr items => exact congrArg (some ∘ Json.arr) (kept_of_missing hpull items).symm
      | _ => rfl
  | some operand =>
    have hfield : field ∈ u.pull.keys := List.mem_map.mpr ⟨_, Entries.mem_of_get? hpull, rfl⟩
    rcases harrays field hfield with hnone | ⟨items, hitems⟩
    · rw [hnone]
      rfl
    · rw [hitems]
      exact congrArg (some ∘ Json.arr) (kept_of_get? hpull items).symm

/-- Pushing puts values behind what is there, or makes an array of them. -/
theorem exists_foldlM_push (nodup : u.push.keys.Nodup) (hid : Document.idKey ∉ u.push.keys)
    (harrays : FindsArrays u.push d) :
    ∃ d', (u.push.mapValues (spread "$each")).foldlM (Modifier.applyField "$push") d = .ok d' ∧
      (∀ field, field ∉ u.push.keys → d'.get? field = d.get? field) ∧
      ∀ field ∈ u.push.keys, d'.get? field =
        some (.arr (((d.get? field).bind Json.items?).getD [] ++ u.added field)) := by
  have hkeys := Entries.keys_mapValues (spread "$each") u.push
  rw [← hkeys] at nodup hid
  obtain ⟨d', hok, hget⟩ := Modifier.exists_foldlM_applyField (d := d) "$push"
    (fun operand current =>
      some (.arr ((current.bind Json.items?).getD [] ++ Modifier.eachItem operand)))
    nodup hid fun field operand hmem e he => by
    have hfield : field ∈ u.push.keys := hkeys ▸ List.mem_map.mpr ⟨_, hmem, rfl⟩
    rcases harrays field hfield with hnone | ⟨items, hitems⟩
    · refine ⟨_, by simp only [Modifier.applyOperator, Modifier.arrayIn, he, hnone]; rfl, ?_⟩
      rw [Entries.get?_insert, if_pos rfl, hnone]
      rfl
    · refine ⟨_, by simp only [Modifier.applyOperator, Modifier.arrayIn, he, hitems]; rfl, ?_⟩
      rw [Entries.get?_insert, if_pos rfl, hitems]
      rfl
  refine ⟨d', hok, fun field hfield => ?_, fun field hfield => ?_⟩
  · rw [hget, Entries.get?_mapValues, Entries.get?_eq_none_iff.mpr hfield]
    rfl
  · obtain ⟨operand, hpush⟩ := Option.ne_none_iff_exists'.mp
      (mt Entries.get?_eq_none_iff.mp (not_not.mpr hfield))
    rw [hget, Entries.get?_mapValues, hpush, added_of_get? hpush]
    rfl

end Documents

/-- An update that only pulls and pushes pulls first. -/
theorem apply_modifiers_eq (hreplace : u.replace = []) (hoperate : u.operate = [])
    (d : Document) :
    Modifier.apply u.modifiers d =
      (u.pull.mapValues (spread "$in")).foldlM (Modifier.applyField "$pull") d >>=
        (u.push.mapValues (spread "$each")).foldlM (Modifier.applyField "$push") := by
  have hmodifiers : u.modifiers = operation "$pull" (u.pull.mapValues (spread "$in")) ++
      operation "$push" (u.push.mapValues (spread "$each")) := by
    have hlt : "$pull" < "$push" := by decide
    have hset : operation "$set" [] = [] := rfl
    rw [modifiers, hreplace, hoperate, hset, List.nil_append]
    generalize u.pull.mapValues (spread "$in") = pulls
    generalize u.push.mapValues (spread "$each") = pushes
    cases pulls <;> cases pushes <;>
      simp [operation, Entries.ofList, Entries.insertAll, Entries.insert, hlt]
  have hoperation : ∀ operator fields e, (operation operator fields).foldlM Modifier.applyEntry e =
      fields.foldlM (Modifier.applyField operator) e := by
    intro operator fields e
    cases fields with
    | nil => rfl
    | cons entry rest => exact Modifier.apply_singleton operator (entry :: rest) e
  rw [Modifier.apply, hmodifiers, List.foldlM_append, hoperation]
  exact congrArg _ (funext fun e => hoperation _ _ e)

/-- An update that pulls from and pushes to fields which hold arrays or are missing succeeds and
changes these fields only: of an array it keeps what it does not take out and puts the rest
behind.  What it puts there are the values pushed, unless these are one object with an array
under `$each`.  If what it pulls is no condition, it takes out the values pulled and nothing
else, unless an item that equals none of them is an array that contains one.  If it is a
condition, there are arrays from which it does not take just that object. -/
theorem apply_pulls_pushes (u : Update) (d : Document) (hreplace : u.replace = [])
    (hoperate : u.operate = []) (hpull : u.pull.keys.Nodup) (hpush : u.push.keys.Nodup)
    (hid : Document.idKey ∉ u.pull.keys ∧ Document.idKey ∉ u.push.keys)
    (harrays : FindsArrays u.pull d ∧ FindsArrays u.push d) :
    (∃ d', Modifier.apply u.modifiers d = .ok d' ∧
      (∀ field, field ∉ u.pull.keys → field ∉ u.push.keys → d'.get? field = d.get? field) ∧
      (∀ field items, d.get? field = some (.arr items) →
        d'.get? field = some (.arr (u.kept field items ++ u.added field))) ∧
      ∀ field, d.get? field = none → d'.get? field =
        if field ∈ u.push.keys then some (.arr (u.added field)) else none) ∧
    ∀ field,
      (u.added field = u.pushed field ↔
        ∀ entries items, u.push.get? field = some (.obj entries) →
          Entries.get? entries "$each" ≠ some (.arr items)) ∧
      ((∀ entries, u.pull.get? field = some (.obj entries) →
          Condition.isOperators entries = false) →
        ∀ items, u.kept field items =
            items.filter (fun item => !(u.pulled field).contains item) ↔
          ∀ inner, .arr inner ∈ items → (∃ v ∈ u.pulled field, inner.contains v = true) →
            (u.pulled field).contains (.arr inner) = true) ∧
      ∀ entries, u.pull.get? field = some (.obj entries) →
        Condition.isOperators entries = true →
        ∃ items, u.kept field items ≠
          items.filter fun item => !(u.pulled field).contains item := by
  refine ⟨?_, fun field => ⟨added_eq_pushed_iff, fun plain items => kept_eq_filter_iff items plain,
    fun entries => exists_kept_ne_filter⟩⟩
  obtain ⟨d₁, hpulled, hd₁⟩ := exists_foldlM_pull hpull hid.1 harrays.1
  have harrays₁ : FindsArrays u.push d₁ := by
    intro field hfield
    rw [hd₁]
    rcases harrays.2 field hfield with hnone | ⟨items, hitems⟩
    · exact .inl (by rw [hnone])
    · exact .inr ⟨u.kept field items, by rw [hitems]⟩
  obtain ⟨d', hpushed, hother, hd'⟩ := exists_foldlM_push hpush hid.2 harrays₁
  refine ⟨d', ?_, fun field hfree hfree' => ?_, fun field items hitems => ?_, fun field hnone => ?_⟩
  · rw [apply_modifiers_eq hreplace hoperate, hpulled]
    exact hpushed
  · rw [hother field hfree', hd₁]
    cases hget : d.get? field with
    | none => rfl
    | some v =>
      cases v with
      | arr items =>
        exact congrArg (some ∘ Json.arr)
          (kept_of_missing (Entries.get?_eq_none_iff.mpr hfree) items)
      | _ => rfl
  · by_cases hfield : field ∈ u.push.keys
    · rw [hd' field hfield, hd₁, hitems]
      rfl
    · rw [hother field hfield, hd₁, hitems,
        added_of_missing (Entries.get?_eq_none_iff.mpr hfield), List.append_nil]
  · split
    · rename_i hfield
      rw [hd' field hfield, hd₁, hnone]
      rfl
    · rename_i hfield
      rw [hother field hfield, hd₁, hnone]

/-- Objects in arrays are values among others, whatever their keys; a field is pulled from and
pushed to, and another one is missing. -/
theorem apply_pulls_pushes_objects :
    let u : Update :=
      { id := "p1"
        pull := [("tags", .arr [.str "a", .obj [("$ne", .null)]])]
        push := [("links", .str "l"), ("tags", .arr [.str "a", .obj [("$each", .arr [])]])] }
    let d : Document :=
      [("_id", .str "p1"), ("tags", .arr [.str "a", .str "b", .obj [("$ne", .null)], .str "a"])]
    u.pull.keys.Nodup ∧ u.push.keys.Nodup ∧
      (Document.idKey ∉ u.pull.keys ∧ Document.idKey ∉ u.push.keys) ∧
      (FindsArrays u.pull d ∧ FindsArrays u.push d) ∧
      ∃ d', Modifier.apply u.modifiers d = .ok d' ∧
        d'.get? "_id" = some (.str "p1") ∧
        d'.get? "tags" = some (.arr [.str "b", .str "a", .obj [("$each", .arr [])]]) ∧
        d'.get? "links" = some (.arr [.str "l"]) := by
  intro u d
  have hpull : u.pull.keys.Nodup := by decide
  have hpush : u.push.keys.Nodup := by decide
  have hid : Document.idKey ∉ u.pull.keys ∧ Document.idKey ∉ u.push.keys := by decide
  have harrays : FindsArrays u.pull d ∧ FindsArrays u.push d :=
    ⟨List.forall_mem_singleton.mpr (.inr ⟨_, rfl⟩),
      List.forall_mem_cons.mpr ⟨.inl rfl, List.forall_mem_singleton.mpr (.inr ⟨_, rfl⟩)⟩⟩
  obtain ⟨⟨d', hok, hother, hthere, hmissing⟩, -⟩ :=
    apply_pulls_pushes u d rfl rfl hpull hpush hid harrays
  exact ⟨hpull, hpush, hid, harrays, d', hok, hother "_id" (by decide) (by decide),
    hthere "tags" _ rfl, hmissing "links" rfl⟩

/-- An object of operators is pulled as a condition, which takes out every item here, an object
with an array under `$each` is pushed item by item, and a text is found inside an item. -/
theorem apply_pulls_pushes_read :
    let condition : Update := { id := "p1", pull := [("tags", .obj [("$ne", .null)])] }
    let spread : Update :=
      { id := "p1", push := [("tags", .obj [("$each", .arr [.str "x", .str "y"])])] }
    let inner : Update := { id := "p1", pull := [("tags", .str "a")] }
    Modifier.apply condition.modifiers [("tags", .arr [.str "a", .str "b"])] =
        .ok [("tags", .arr [])] ∧
      Modifier.apply spread.modifiers [] = .ok [("tags", .arr [.str "x", .str "y"])] ∧
      Modifier.apply inner.modifiers [("tags", .arr [.arr [.str "a"]])] =
        .ok [("tags", .arr [])] :=
  ⟨rfl, rfl, rfl⟩

end Update

end RecordStore
