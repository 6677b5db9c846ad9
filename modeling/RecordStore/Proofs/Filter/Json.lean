/-
Filters written as JSON and read back.

Writing loses two distinctions: a field that must be exactly some list is written like
a field that must be one of its items, and a null bound like a missing one.  Reading
gives the second form in both cases, and changes nothing else.  So what is read of a
filter that was written is its normal form, and what was read from any value is in
normal form already.  Taking the normal form only matters to queries where a field must
be exactly a list.

* `Filter.ofJson_toJson` — what is read of a filter that was written;
* `Filter.normalize_of_ofJson` — what was read is in normal form;
* `Filter.query_normalize` — the query of a normal form;
* `Filter.ofJson_range_eq_ok_iff` — which ranges are read;
* `Filter.json_round_trip` — all of this for one filter.
-/
import Mathlib.Data.List.Forall2
import RecordStore.Filter.Json
import RecordStore.Filter.Query
import RecordStore.Proofs.Entries
import RecordStore.Proofs.Except

namespace RecordStore

/-! ### Constraints and bounds -/

namespace Constraint

theorem ofJson_toJson (c : Constraint) : ofJson c.toJson = c.normalize := by
  cases c with
  | anyOf values => rfl
  | is v => cases v <;> rfl

theorem normalize_ofJson (v : Json) : (ofJson v).normalize = ofJson v := by
  cases v <;> rfl

/-- Whether the field must be exactly some list. -/
def isExactList : Constraint → Bool
  | .is (.arr _) => true
  | _ => false

theorem normalize_of_isExactList {c : Constraint} (h : c.isExactList = false) :
    c.normalize = c := by
  cases c with
  | anyOf values => rfl
  | is v =>
    cases v with
    | arr values => exact absurd h (by simp [isExactList])
    | null | bool _ | num _ | str _ | obj _ => rfl

end Constraint

namespace Bounds

theorem limit?_limit? (bound : Option Json) : limit? (limit? bound) = limit? bound := by
  rw [limit?, limit?, Option.filter_filter]
  simp only [Bool.and_self]

/-- A missing bound is written as null, which leaves the side open. -/
theorem limit?_getD_null (bound : Option Json) :
    limit? (some (bound.getD .null)) = limit? bound := by
  cases bound with
  | none => rfl
  | some v => rfl

/-- The bounds that the first two entries of a list stand for. -/
def ofFirstTwo (bounds : List Json) : Bounds :=
  { low := limit? bounds[0]?, high := limit? bounds[1]? }

theorem normalize_ofFirstTwo (bounds : List Json) :
    (ofFirstTwo bounds).normalize = ofFirstTwo bounds := by
  have hlow := limit?_limit? bounds[0]?
  have hhigh := limit?_limit? bounds[1]?
  simp only [normalize, low?, high?, ofFirstTwo, hlow, hhigh]

theorem ofList_eq_ok_iff {bounds : List Json} {b : Bounds} :
    ofList bounds = .ok b ↔ bounds.length ≤ 2 ∧ b = ofFirstTwo bounds := by
  have hshort (hread : ofList bounds = .ok (ofFirstTwo bounds)) (hlength : bounds.length ≤ 2) :
      ofList bounds = .ok b ↔ bounds.length ≤ 2 ∧ b = ofFirstTwo bounds := by
    rw [hread, Except.ok.injEq]
    exact ⟨fun h => ⟨hlength, h.symm⟩, fun h => h.2.symm⟩
  match bounds with
  | [] => exact hshort rfl (by simp)
  | [low] => exact hshort rfl (by simp)
  | [low, high] => exact hshort rfl (by simp)
  | low :: high :: third :: rest =>
    refine iff_of_false (by simp [ofList]) fun h => ?_
    have hlength := h.1
    simp only [List.length_cons] at hlength
    omega

end Bounds

namespace Filter

theorem boundsOfJson_toJson (b : Bounds) : boundsOfJson b.toJson = .ok b.normalize := by
  have hread : boundsOfJson b.toJson =
      .ok (Bounds.ofFirstTwo [b.low.getD .null, b.high.getD .null]) := rfl
  have hlow := Bounds.limit?_getD_null b.low
  have hhigh := Bounds.limit?_getD_null b.high
  rw [hread, Bounds.normalize, Bounds.low?, Bounds.high?, ← hlow, ← hhigh]
  rfl

theorem normalize_of_boundsOfJson {v : Json} {b : Bounds} (h : boundsOfJson v = .ok b) :
    b.normalize = b := by
  cases v with
  | arr bounds =>
    obtain ⟨-, rfl⟩ := Bounds.ofList_eq_ok_iff.mp h
    exact Bounds.normalize_ofFirstTwo bounds
  | null | bool _ | num _ | str _ | obj _ => exact absurd h (by simp [boundsOfJson])

/-! ### Leaves -/

section Leaves

variable {α : Type} {read : Json → Except FilterError α}

/-- Entries are read one by one, each under its key. -/
theorem readEntries_eq_ok_iff {entries : List (String × Json)} {d : Entries α} :
    readEntries read entries = .ok d ↔
      List.Forall₂ (fun e p => e.1 = p.1 ∧ read e.2 = .ok p.2) entries d := by
  induction entries generalizing d with
  | nil =>
    rw [readEntries, List.forall₂_nil_left_iff, Except.ok.injEq]
    exact eq_comm
  | cons entry rest ih =>
    obtain ⟨key, v⟩ := entry
    rw [readEntries, Except.bind_eq_ok_iff, List.forall₂_cons_left_iff]
    constructor
    · rintro ⟨a, hv, hmore⟩
      obtain ⟨others, hrest, hd⟩ := Except.bind_eq_ok_iff.mp hmore
      obtain rfl : (key, a) :: others = d := Except.ok.inj hd
      exact ⟨(key, a), others, ⟨rfl, hv⟩, ih.mp hrest, rfl⟩
    · rintro ⟨⟨key', a⟩, others, ⟨hkey, hv⟩, hrest, rfl⟩
      obtain rfl : key = key' := hkey
      refine ⟨a, hv, ?_⟩
      rw [ih.mpr hrest]
      rfl

theorem readEntries_mapValues {β : Type} {write : β → Json} {f : β → α}
    (h : ∀ b, read (write b) = .ok (f b)) (d : Entries β) :
    readEntries read (d.mapValues write) = .ok (d.mapValues f) := by
  rw [readEntries_eq_ok_iff, Entries.mapValues, Entries.mapValues, List.forall₂_map_left_iff,
    List.forall₂_map_right_iff]
  exact List.forall₂_same.mpr fun p _ => ⟨rfl, h p.2⟩

theorem exists_of_mem_readEntries {entries : List (String × Json)} {d : Entries α}
    (h : readEntries read entries = .ok d) : ∀ p ∈ d, ∃ v, read v = .ok p.2 := by
  rw [readEntries_eq_ok_iff] at h
  induction h with
  | nil => exact fun p hp => absurd hp List.not_mem_nil
  | cons hfirst _ ih =>
    intro p hp
    rcases List.mem_cons.mp hp with rfl | hmem
    · exact ⟨_, hfirst.2⟩
    · exact ih p hmem

theorem leafOfJson_eq_ok_iff {make : Entries α → Filter} {v : Json} {f : Filter} :
    leafOfJson make read v = .ok f ↔
      ∃ entries d, v = .obj entries ∧ readEntries read entries = .ok d ∧ make d = f := by
  cases v with
  | obj entries =>
    rw [leafOfJson, Except.map_eq_ok_iff]
    constructor
    · rintro ⟨d, hread, hf⟩
      exact ⟨entries, d, rfl, hread, hf⟩
    · rintro ⟨entries', d, hobj, hread, hf⟩
      obtain rfl := Json.obj.inj hobj
      exact ⟨d, hread, hf⟩
  | null | bool _ | num _ | str _ | arr _ => exact iff_of_false (by simp [leafOfJson]) (by simp)

end Leaves

/-! ### Reading what was written -/

mutual

/-- What is read of a filter that was written is its normal form. -/
theorem ofJson_toJson : ∀ f : Filter, ofJson f.toJson = .ok f.normalize
  | .matching fields => by
    have hread : readEntries (fun v => .ok (Constraint.ofJson v))
        (fields.mapValues Constraint.toJson) = .ok (fields.mapValues Constraint.normalize) :=
      readEntries_mapValues (fun c => by rw [Constraint.ofJson_toJson]) fields
    rw [toJson, ofJson, leafOfJson, hread, normalize]
    rfl
  | .presence fields => by
    have hread : readEntries flagOfJson (fields.mapValues Json.bool) =
        .ok (fields.mapValues id) := readEntries_mapValues (fun _ => by rfl) fields
    have hsame : fields.mapValues id = fields := List.map_id fields
    rw [toJson, ofJson, leafOfJson, hread, hsame, normalize]
    rfl
  | .range fields => by
    have hread := readEntries_mapValues boundsOfJson_toJson fields
    rw [toJson, ofJson, leafOfJson, hread, normalize]
    rfl
  | .and children => by
    rw [toJson, ofJson, ofJsonAll_toJsonAll children, normalize]
    rfl
  | .or children => by
    rw [toJson, ofJson, ofJsonAll_toJsonAll children, normalize]
    rfl
  | .not child => by
    rw [toJson, ofJson, ofJson_toJson child, normalize]
    rfl

theorem ofJsonAll_toJsonAll : ∀ fs : List Filter, ofJsonAll (toJsonAll fs) = .ok (normalizeAll fs)
  | [] => rfl
  | f :: rest => by
    rw [toJsonAll, ofJsonAll, ofJson_toJson f, ofJsonAll_toJsonAll rest, normalizeAll]
    rfl

end

/-! ### What was read -/

/-- What was read from a value is in normal form. -/
theorem normalize_of_ofJson {v : Json} {f : Filter} (h : ofJson v = .ok f) : f.normalize = f := by
  -- The induction goes along the reading of `v`, with the lists of filters beside it.
  induction v using ofJson.induct
    (motive_2 := fun items => ∀ fs, ofJsonAll items = .ok fs → normalizeAll fs = fs)
    generalizing f with
  | case1 content =>
    rw [ofJson, leafOfJson_eq_ok_iff] at h
    obtain ⟨entries, fields, rfl, hread, rfl⟩ := h
    have hnormal : ∀ p ∈ fields, p.2.normalize = p.2 := by
      intro p hp
      obtain ⟨v, hv⟩ := exists_of_mem_readEntries hread p hp
      rw [← Except.ok.inj hv, Constraint.normalize_ofJson]
    rw [normalize, Entries.mapValues_eq_self hnormal]
  | case2 content =>
    rw [ofJson, leafOfJson_eq_ok_iff] at h
    obtain ⟨entries, fields, rfl, -, rfl⟩ := h
    rw [normalize]
  | case3 content =>
    rw [ofJson, leafOfJson_eq_ok_iff] at h
    obtain ⟨entries, fields, rfl, hread, rfl⟩ := h
    have hnormal : ∀ p ∈ fields, p.2.normalize = p.2 := by
      intro p hp
      obtain ⟨v, hv⟩ := exists_of_mem_readEntries hread p hp
      exact normalize_of_boundsOfJson hv
    rw [normalize, Entries.mapValues_eq_self hnormal]
  | case4 items ih | case6 items ih =>
    rw [ofJson, Except.map_eq_ok_iff] at h
    obtain ⟨children, hread, rfl⟩ := h
    rw [normalize, ih children hread]
  | case8 content ih =>
    rw [ofJson, Except.map_eq_ok_iff] at h
    obtain ⟨child, hread, rfl⟩ := h
    rw [normalize, ih hread]
  -- No filter: no list under `and` or `or`, another key, or no object of one entry.
  | case5 content hcontent | case7 content hcontent | case10 content hcontent =>
    rw [ofJson] at h
    · exact absurd h (by simp)
    · exact hcontent
  | case9 key content hmatch hexists hrange hand hor hnot =>
    rw [ofJson] at h
    · exact absurd h (by simp)
    all_goals assumption
  | case11 fs hfs =>
    obtain rfl : [] = fs := Except.ok.inj hfs
    rfl
  | case12 v rest ih ihrest fs hfs =>
    rw [ofJsonAll, Except.bind_eq_ok_iff] at hfs
    obtain ⟨f, hf, hmore⟩ := hfs
    obtain ⟨others, hothers, hlist⟩ := Except.bind_eq_ok_iff.mp hmore
    obtain rfl : f :: others = fs := Except.ok.inj hlist
    rw [normalizeAll, ih hf, ihrest others hothers]

theorem readEntries_bounds_eq_ok_iff {ranges : Entries (List Json)} {d : Entries Bounds} :
    readEntries boundsOfJson (ranges.mapValues .arr) = .ok d ↔
      (∀ p ∈ ranges, p.2.length ≤ 2) ∧ ranges.mapValues Bounds.ofFirstTwo = d := by
  have hpair : ∀ (e : String × List Json) (p : String × Bounds),
      e.1 = p.1 ∧ boundsOfJson (.arr e.2) = .ok p.2 ↔
        e.2.length ≤ 2 ∧ (e.1, Bounds.ofFirstTwo e.2) = p := by
    rintro ⟨key, bounds⟩ ⟨key', b⟩
    rw [boundsOfJson, Bounds.ofList_eq_ok_iff, Prod.mk.injEq, eq_comm (a := b)]
    exact and_left_comm
  rw [readEntries_eq_ok_iff, Entries.mapValues, List.forall₂_map_left_iff]
  simp only [hpair]
  rw [List.forall₂_and_left, ← List.forall₂_map_left_iff, List.forall₂_eq_eq_eq]
  rfl

/-- A range is read just if each of its lists has at most two entries. -/
theorem ofJson_range_eq_ok_iff {ranges : Entries (List Json)} {f : Filter} :
    ofJson (.obj [("range", .obj (ranges.mapValues .arr))]) = .ok f ↔
      (∀ p ∈ ranges, p.2.length ≤ 2) ∧ f = .range (ranges.mapValues Bounds.ofFirstTwo) := by
  rw [ofJson, leafOfJson, Except.map_eq_ok_iff]
  constructor
  · rintro ⟨d, hread, rfl⟩
    obtain ⟨hshort, rfl⟩ := readEntries_bounds_eq_ok_iff.mp hread
    exact ⟨hshort, rfl⟩
  · rintro ⟨hshort, rfl⟩
    exact ⟨_, readEntries_bounds_eq_ok_iff.mpr ⟨hshort, rfl⟩, rfl⟩

/-! ### Queries of normal forms -/

mutual

/-- Whether some field must be exactly some list. -/
def hasExactList : Filter → Bool
  | .matching fields => fields.any fun p => p.2.isExactList
  | .presence _ => false
  | .range _ => false
  | .and children => anyHasExactList children
  | .or children => anyHasExactList children
  | .not child => hasExactList child

def anyHasExactList : List Filter → Bool
  | [] => false
  | f :: rest => hasExactList f || anyHasExactList rest

end

theorem rangeEntries_normalize (t : RecordType) (field : String) (b : Bounds) :
    rangeEntries t field b.normalize = rangeEntries t field b := by
  have hlow : b.normalize.low? = b.low? := Bounds.limit?_limit? b.low
  have hhigh : b.normalize.high? = b.high? := Bounds.limit?_limit? b.high
  simp only [rangeEntries, lengthConditions, rangeCondition, hlow, hhigh]

theorem rangeClause_mapValues_normalize (t : RecordType) (fields : Entries Bounds) :
    rangeClause t (fields.mapValues Bounds.normalize) = rangeClause t fields := by
  rw [rangeClause, rangeClause, Entries.mapValues, List.flatMap_map]
  simp only [rangeEntries_normalize]

section Queries

variable (t : RecordType)

mutual

theorem clauses_normalize : ∀ f : Filter, f.hasExactList = false →
    clauses t f.normalize = clauses t f
  | .matching fields, h => by
    have hnormal : ∀ p ∈ fields, p.2.normalize = p.2 := by
      intro p hp
      have hp' := List.any_eq_false.mp h p hp
      exact Constraint.normalize_of_isExactList (by simpa using hp')
    rw [normalize, Entries.mapValues_eq_self hnormal]
  | .presence fields, _ => by rw [normalize]
  | .range fields, _ => by rw [normalize, clauses, clauses, rangeClause_mapValues_normalize]
  | .and children, h => by
    rw [normalize, clauses, clauses, allClauses_normalizeAll children h]
  | .or [], _ => rfl
  | .or (f :: rest), h => by
    rw [normalize, clauses, clauses, branches_normalizeAll (f :: rest) h]
    rfl
  | .not child, h => by rw [normalize, clauses, clauses, clauses_normalize child h]

theorem allClauses_normalizeAll : ∀ fs : List Filter, anyHasExactList fs = false →
    allClauses t (normalizeAll fs) = allClauses t fs
  | [], _ => rfl
  | f :: rest, h => by
    obtain ⟨hf, hrest⟩ := Bool.or_eq_false_iff.mp h
    rw [normalizeAll, allClauses, allClauses, clauses_normalize f hf,
      allClauses_normalizeAll rest hrest]

theorem branches_normalizeAll : ∀ fs : List Filter, anyHasExactList fs = false →
    branches t (normalizeAll fs) = branches t fs
  | [], _ => rfl
  | f :: rest, h => by
    obtain ⟨hf, hrest⟩ := Bool.or_eq_false_iff.mp h
    rw [normalizeAll, branches, branches, clauses_normalize f hf,
      branches_normalizeAll rest hrest]

end

theorem query_normalize (f : Filter) (h : f.hasExactList = false) :
    f.normalize.query t = f.query t := by
  rw [query, query, clauses_normalize t f h]

end Queries

/-- A filter that is written and read again is its normal form: itself if it was read
from some value, and in any case, if no field must be exactly a list, a filter with the
same query.  The lists of a range are read just if they have at most two entries, of
which null leaves its side open. -/
theorem json_round_trip (f : Filter) :
    ofJson f.toJson = .ok f.normalize ∧
    (∀ v, ofJson v = .ok f → ofJson f.toJson = .ok f) ∧
    (f.hasExactList = false →
      ∀ g, ofJson f.toJson = .ok g → ∀ t, g.query t = f.query t) ∧
    ∀ (ranges : Entries (List Json)) g,
      ofJson (.obj [("range", .obj (ranges.mapValues .arr))]) = .ok g ↔
        (∀ p ∈ ranges, p.2.length ≤ 2) ∧ g = .range (ranges.mapValues Bounds.ofFirstTwo) := by
  have hwritten := ofJson_toJson f
  refine ⟨hwritten, fun v hv => ?_, fun hlists g hg t => ?_, fun ranges g => ?_⟩
  · rw [hwritten, normalize_of_ofJson hv]
  · rw [hwritten] at hg
    obtain rfl := Except.ok.inj hg
    exact query_normalize t f hlists
  · exact ofJson_range_eq_ok_iff

/-- A filter read from a value with a short list of bounds, and a range with null. -/
theorem json_round_trip_short_list :
    let f : Filter := .not (.or [.matching [("tags", .anyOf [.str "x"])],
      .range [("age", { low := some (.ofNat 3) })]])
    let v : Json := .obj [("not", .obj [("or", .arr
      [.obj [("match", .obj [("tags", .arr [.str "x"])])],
        .obj [("range", .obj [("age", .arr [.ofNat 3])])]])])]
    ofJson v = .ok f ∧ f.hasExactList = false ∧ ofJson f.toJson = .ok f ∧
      (∀ g, ofJson f.toJson = .ok g → ∀ t, g.query t = f.query t) ∧
      ofJson (.obj [("range", .obj [("age", .arr [.null, .ofNat 3])])]) =
        .ok (.range [("age", { high := some (.ofNat 3) })]) := by
  intro f v
  have hv : ofJson v = .ok f := rfl
  have hlists : f.hasExactList = false := rfl
  obtain ⟨-, hread, hquery, hrange⟩ := json_round_trip f
  refine ⟨hv, hlists, hread v hv, hquery hlists, ?_⟩
  have hshort : ∀ p ∈ [("age", [Json.null, .ofNat 3])], p.2.length ≤ 2 := by simp
  exact (hrange [("age", [.null, .ofNat 3])] _).mpr ⟨hshort, rfl⟩

end Filter

end RecordStore
