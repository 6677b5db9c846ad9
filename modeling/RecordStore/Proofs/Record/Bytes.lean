/-
The forms of a byte string.

A byte string stands in a document as the list of its bytes, as base64 text in an object, or
as such a list in an object.  Each form is read as the bytes it stands for and nothing else
is read, so the forms are told apart by the bytes alone; of two forms in one object the text
counts.

* `Json.IsFormOf` — the forms of a byte string;
* `Json.bytes?_eq_some_iff` — the plain form is the only list that is read;
* `Json.normalizeBytes?_eq_some_iff`, `Json.IsBinary` — what is read, and as what;
* `Record.decodeBytes_forms` — all forms of a byte string, its text, and what is refused.
-/
import RecordStore.Proofs.Base64
import RecordStore.Record.Codec

namespace RecordStore

namespace Json

/-! ### Lists of bytes -/

theorem byte?_ofByte (b : UInt8) : byte? (ofByte b) = some b := by
  have hlt : b.toNat < 256 := b.toNat_lt
  have hbyte : (0 : Int) ≤ b.toNat ∧ (b.toNat : Int) < 256 := ⟨by omega, by omega⟩
  simp only [ofByte, ofNat, byte?, if_pos hbyte, Int.toNat_natCast, UInt8.ofNat_toNat]

/-- A byte is a whole number below 256 and no double. -/
theorem byte?_eq_some_iff {v : Json} {b : UInt8} : v.byte? = some b ↔ v = ofByte b := by
  constructor
  · intro h
    match v with
    | .num (.int n hn) =>
      rw [byte?] at h
      split at h
      case isTrue hbyte =>
        obtain rfl := Option.some_inj.mp h
        have htoNat : ((UInt8.ofNat n.toNat).toNat : Int) = n := by
          rw [UInt8.toNat_ofNat']
          omega
        simp only [ofByte, ofNat, htoNat]
      case isFalse => exact absurd h (by simp)
    | .num (.float _) | .null | .bool _ | .str _ | .arr _ | .obj _ =>
      exact absurd h (by simp [byte?])
  · rintro rfl
    exact byte?_ofByte b

theorem bytes?_ofBytes (bytes : List UInt8) : (ofBytes bytes).bytes? = some bytes := by
  rw [ofBytes, bytes?]
  induction bytes with
  | nil => rfl
  | cons b rest ih =>
    rw [List.map_cons, List.mapM_cons, byte?_ofByte, ih]
    rfl

theorem mapM_byte?_eq_some {items : List Json} {bytes : List UInt8}
    (h : items.mapM byte? = some bytes) : items = bytes.map ofByte := by
  induction items generalizing bytes with
  | nil =>
    obtain rfl := Option.some_inj.mp h
    rfl
  | cons item rest ih =>
    rw [List.mapM_cons] at h
    obtain ⟨b, hb, h⟩ := Option.bind_eq_some_iff.mp h
    obtain ⟨others, hothers, h⟩ := Option.bind_eq_some_iff.mp h
    obtain rfl := Option.some_inj.mp h
    rw [List.map_cons, byte?_eq_some_iff.mp hb, ih hothers]

/-- A byte string has one plain form. -/
theorem bytes?_eq_some_iff {v : Json} {bytes : List UInt8} :
    v.bytes? = some bytes ↔ v = ofBytes bytes := by
  constructor
  · intro h
    cases v with
    | arr items => exact congrArg arr (mapM_byte?_eq_some h)
    | _ => exact absurd h (by simp [bytes?])
  · rintro rfl
    exact bytes?_ofBytes bytes

/-! ### Objects -/

theorem base64Bytes?_eq_some_iff {v : Json} {bytes : List UInt8} :
    v.base64Bytes? = some bytes ↔ v = .str (String.ofList (Base64.encode bytes)) := by
  cases v with
  | str text =>
    rw [base64Bytes?, Base64.decode_eq_some_iff, str.injEq]
    exact ⟨fun h => by rw [← h, String.ofList_toList], fun h => by rw [h, String.toList_ofList]⟩
  | _ => exact iff_of_false (by simp [base64Bytes?]) (by simp)

/-- The forms of a byte string: the list of its bytes, its base64 text in an object, either
as it is or in another object, and the list of its bytes in an object without such a text. -/
inductive IsFormOf (bytes : List UInt8) : Json → Prop
  | plain : IsFormOf bytes (.ofBytes bytes)
  | extended {wrapper inner : Document} (hbinary : wrapper.get? "$binary" = some (.obj inner))
      (htext : inner.get? "base64" = some (.str (String.ofList (Base64.encode bytes)))) :
      IsFormOf bytes (.obj wrapper)
  | legacy {wrapper : Document}
      (htext : wrapper.get? "$binary" = some (.str (String.ofList (Base64.encode bytes)))) :
      IsFormOf bytes (.obj wrapper)
  | buffer {wrapper : Document} (hbinary : wrapper.get? "$binary" = none)
      (hbuffer : wrapper.get? "buffer" = some (.ofBytes bytes)) : IsFormOf bytes (.obj wrapper)

theorem wrappedBytes?_eq_some_iff {wrapper : Document} {bytes : List UInt8} :
    (obj wrapper).wrappedBytes? = some bytes ↔ (obj wrapper).IsFormOf bytes := by
  constructor
  · intro h
    rw [wrappedBytes?] at h
    split at h
    case h_1 inner hbinary =>
      obtain ⟨v, hv, htext⟩ := Option.bind_eq_some_iff.mp h
      rw [base64Bytes?_eq_some_iff.mp htext] at hv
      exact .extended hbinary hv
    case h_2 v _ hbinary =>
      rw [base64Bytes?_eq_some_iff.mp h] at hbinary
      exact .legacy hbinary
    case h_3 hbinary =>
      obtain ⟨v, hv, hbuffer⟩ := Option.bind_eq_some_iff.mp h
      rw [bytes?_eq_some_iff.mp hbuffer] at hv
      exact .buffer hbinary hv
  · intro h
    cases h with
    | extended hbinary htext =>
      simp only [wrappedBytes?, hbinary, htext, Option.bind_some, base64Bytes?_eq_some_iff]
    | legacy htext => simp only [wrappedBytes?, htext, base64Bytes?_eq_some_iff]
    | buffer hbinary hbuffer =>
      simp only [wrappedBytes?, hbinary, hbuffer, Option.bind_some, bytes?_ofBytes]

/-! ### All forms -/

/-- Null or a form of a byte string. -/
def IsBinary (v : Json) : Prop := v = .null ∨ ∃ bytes, v.IsFormOf bytes

theorem normalizeBytes?_obj (wrapper : Document) :
    (obj wrapper).normalizeBytes? = (obj wrapper).wrappedBytes?.map ofBytes := rfl

theorem normalizeBytes?_ofBytes (bytes : List UInt8) :
    (ofBytes bytes).normalizeBytes? = some (ofBytes bytes) := by
  rw [normalizeBytes?, bytes?_ofBytes, Option.isSome_some, Bool.or_true, if_pos rfl]

theorem IsFormOf.normalizeBytes? {v : Json} {bytes : List UInt8} (h : v.IsFormOf bytes) :
    v.normalizeBytes? = some (ofBytes bytes) := by
  have hform := h
  cases h with
  | plain => exact normalizeBytes?_ofBytes bytes
  | extended _ _ | legacy _ | buffer _ _ =>
    rw [normalizeBytes?_obj, wrappedBytes?_eq_some_iff.mpr hform, Option.map_some]

/-- A text stands under `$binary`, either as it is or in another object. -/
def HasText (wrapper : Document) (text : String) : Prop :=
  wrapper.get? "$binary" = some (.str text) ∨
    ∃ inner : Document,
      wrapper.get? "$binary" = some (.obj inner) ∧ inner.get? "base64" = some (.str text)

theorem HasText.wrappedBytes? {wrapper : Document} {text : String} (h : HasText wrapper text) :
    (obj wrapper).wrappedBytes? = (str text).base64Bytes? := by
  rcases h with h | ⟨inner, h, h'⟩
  · simp only [Json.wrappedBytes?, h]
  · simp only [Json.wrappedBytes?, h, h', Option.bind_some]

/-- If there is such a text, it alone says which byte string the object is a form of. -/
theorem HasText.isFormOf_iff {wrapper : Document} {text : String} (h : HasText wrapper text)
    {bytes : List UInt8} :
    (obj wrapper).IsFormOf bytes ↔ text = String.ofList (Base64.encode bytes) := by
  rw [← wrappedBytes?_eq_some_iff, h.wrappedBytes?, base64Bytes?_eq_some_iff, str.injEq]

/-- Null is kept, every form of a byte string is read as its plain form, and nothing else is
read. -/
theorem normalizeBytes?_eq_some_iff {v w : Json} :
    v.normalizeBytes? = some w ↔
      v = .null ∧ w = .null ∨ ∃ bytes, v.IsFormOf bytes ∧ w = .ofBytes bytes := by
  constructor
  · intro h
    cases v with
    | null => exact .inl ⟨rfl, (Option.some_inj.mp h).symm⟩
    | arr items =>
      rw [Json.normalizeBytes?] at h
      split at h
      case isTrue hplain =>
        obtain ⟨bytes, hbytes⟩ := Option.isSome_iff_exists.mp hplain
        obtain rfl := Option.some_inj.mp h
        rw [bytes?_eq_some_iff.mp hbytes]
        exact .inr ⟨bytes, .plain, rfl⟩
      case isFalse => exact absurd h (by simp [wrappedBytes?])
    | obj wrapper =>
      rw [normalizeBytes?_obj] at h
      obtain ⟨bytes, hbytes, rfl⟩ := Option.map_eq_some_iff.mp h
      exact .inr ⟨bytes, wrappedBytes?_eq_some_iff.mp hbytes, rfl⟩
    | _ => exact absurd h (by simp [Json.normalizeBytes?, isNull, bytes?, wrappedBytes?])
  · rintro (⟨rfl, rfl⟩ | ⟨bytes, hform, rfl⟩)
    · rfl
    · exact hform.normalizeBytes?

/-- The plain form of a byte string is its own plain form. -/
theorem normalizeBytes?_normalizeBytes? {v w : Json} (h : v.normalizeBytes? = some w) :
    w.normalizeBytes? = some w := by
  rcases normalizeBytes?_eq_some_iff.mp h with ⟨-, rfl⟩ | ⟨bytes, -, rfl⟩
  · rfl
  · exact normalizeBytes?_ofBytes bytes

end Json

namespace Record

theorem decodeBytes_eq_ok_iff {field : String} {v w : Json} :
    decodeBytes field v = .ok w ↔ v.normalizeBytes? = some w := by
  rw [decodeBytes]
  cases v.normalizeBytes? with
  | none => exact iff_of_false (by simp) (by simp)
  | some u => rw [Except.ok.injEq, Option.some_inj]

theorem exists_decodeBytes_iff_isBinary (field : String) {v : Json} :
    (∃ w, decodeBytes field v = .ok w) ↔ v.IsBinary := by
  simp only [decodeBytes_eq_ok_iff, Json.normalizeBytes?_eq_some_iff]
  constructor
  · rintro ⟨w, ⟨hv, -⟩ | ⟨bytes, hform, -⟩⟩
    · exact .inl hv
    · exact .inr ⟨bytes, hform⟩
  · rintro (hv | ⟨bytes, hform⟩)
    · exact ⟨.null, .inl ⟨hv, rfl⟩⟩
    · exact ⟨.ofBytes bytes, .inr ⟨bytes, hform, rfl⟩⟩

/-- A value that is refused is refused for its shape. -/
theorem decodeBytes_eq_error_iff {field : String} {v : Json} {e : InvalidBinary} :
    decodeBytes field v = .error e ↔
      ¬v.IsBinary ∧ e = { field, found := v.shape } := by
  rw [← exists_decodeBytes_iff_isBinary field, decodeBytes]
  cases v.normalizeBytes? with
  | none => simp [eq_comm]
  | some u => simp

/-- All forms of a byte string are read as the list of its bytes, from which the bytes are
got back.  A text under `$binary` is read just if it is the base64 text of a byte string,
which is the only one.  Null is kept, and every other value is refused for its shape.  What is
read is null or the list of a byte string, and reading it again changes nothing. -/
theorem decodeBytes_forms (field : String) :
    (∀ (v : Json) (bytes : List UInt8), v.IsFormOf bytes →
      decodeBytes field v = .ok (.ofBytes bytes)) ∧
    (∀ bytes : List UInt8, (Json.ofBytes bytes).bytes? = some bytes) ∧
    (∀ (wrapper : Document) (text : String), Json.HasText wrapper text →
      ((∃ w, decodeBytes field (.obj wrapper) = .ok w) ↔
        ∃! bytes, text = String.ofList (Base64.encode bytes))) ∧
    decodeBytes field .null = .ok .null ∧
    (∀ v : Json, v ≠ .null → (∀ bytes, ¬v.IsFormOf bytes) →
      decodeBytes field v = .error { field, found := v.shape }) ∧
    ∀ v w, decodeBytes field v = .ok w →
      (w = .null ∨ ∃ bytes, w.bytes? = some bytes) ∧ decodeBytes field w = .ok w := by
  refine ⟨?_, Json.bytes?_ofBytes, ?_, rfl, ?_, ?_⟩
  · intro v bytes hform
    exact decodeBytes_eq_ok_iff.mpr hform.normalizeBytes?
  · intro wrapper text htext
    have hnull : Json.obj wrapper ≠ .null := by simp
    simp only [exists_decodeBytes_iff_isBinary, Json.IsBinary, hnull, false_or, htext.isFormOf_iff]
    constructor
    · rintro ⟨bytes, rfl⟩
      refine ⟨bytes, rfl, fun bytes' h => ?_⟩
      exact (Base64.encode_injective (String.ofList_injective h)).symm
    · exact ExistsUnique.exists
  · intro v hnull hform
    exact decodeBytes_eq_error_iff.mpr ⟨not_or.mpr ⟨hnull, not_exists.mpr hform⟩, rfl⟩
  · intro v w h
    rw [decodeBytes_eq_ok_iff] at h
    refine ⟨?_, decodeBytes_eq_ok_iff.mpr (Json.normalizeBytes?_normalizeBytes? h)⟩
    rcases Json.normalizeBytes?_eq_some_iff.mp h with ⟨-, rfl⟩ | ⟨bytes, -, rfl⟩
    · exact .inl rfl
    · exact .inr ⟨bytes, Json.bytes?_ofBytes bytes⟩

end Record

end RecordStore
