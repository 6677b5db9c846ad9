/-
Which texts base64 reads.

A symbol stands for one six-bit number and every six-bit number has one symbol, so a group
of symbols determines the bits that it was made of.  A short last group has bits to spare,
and reading asks that they be zero, as writing leaves them.  Nothing else can be read: a
text is read as a byte string just if it is what is written for it.

* `Base64.value?_eq_some_iff` — the symbols of six-bit numbers;
* `Base64.decodeOne_eq_some_iff`, `Base64.decodeTwo_eq_some_iff`,
  `Base64.decodeThree_eq_some_iff` — groups of one, two and three bytes;
* `Base64.decode_eq_some_iff` — the texts of byte strings, and no others, are read.
-/
import Mathlib.Data.Option.Basic
import RecordStore.Base64

namespace RecordStore.Base64

/-! ### Symbols -/

theorem value?_symbol : ∀ n < 64, value? (symbol standard n) = some n := by
  decide

/-- A character of a range that starts at `first`, counted from there. -/
theorem ofNat_add_sub {first last c : Char} (h : first ≤ c ∧ c ≤ last) :
    c.toNat - first.toNat ≤ last.toNat - first.toNat ∧
      Char.ofNat (first.toNat + (c.toNat - first.toNat)) = c := by
  have hfirst : first.toNat ≤ c.toNat := h.1
  have hlast : c.toNat ≤ last.toNat := h.2
  refine ⟨by omega, ?_⟩
  rw [Nat.add_sub_cancel' hfirst, Char.ofNat_toNat]

theorem symbol_of_value? {c : Char} {n : Nat} (h : value? c = some n) :
    n < 64 ∧ symbol standard n = c := by
  rw [value?] at h
  split at h
  case isTrue hupper =>
    obtain ⟨hle, hc⟩ := ofNat_add_sub hupper
    have hlt : c.toNat - 'A'.toNat < 26 := Nat.lt_succ_of_le hle
    obtain rfl := Option.some_inj.mp h
    exact ⟨by omega, by rw [symbol, if_pos hlt, hc]⟩
  split at h
  case isTrue hlower =>
    obtain ⟨hle, hc⟩ := ofNat_add_sub hlower
    have hlt : c.toNat - 'a'.toNat < 26 := Nat.lt_succ_of_le hle
    obtain rfl := Option.some_inj.mp h
    exact ⟨by omega, by rw [symbol, if_neg (by omega), if_pos (by omega), Nat.add_sub_cancel, hc]⟩
  split at h
  case isTrue hdigit =>
    obtain ⟨hle, hc⟩ := ofNat_add_sub hdigit
    have hlt : c.toNat - '0'.toNat < 10 := Nat.lt_succ_of_le hle
    obtain rfl := Option.some_inj.mp h
    exact ⟨by omega, by rw [symbol, if_neg (by omega), if_neg (by omega), if_pos (by omega),
      Nat.add_sub_cancel, hc]⟩
  split at h
  case isTrue hplus =>
    obtain rfl := Option.some_inj.mp h
    exact ⟨by omega, hplus ▸ rfl⟩
  split at h
  case isTrue hslash =>
    obtain rfl := Option.some_inj.mp h
    exact ⟨by omega, hslash ▸ rfl⟩
  case isFalse => exact absurd h (by simp)

theorem value?_eq_some_iff {c : Char} {n : Nat} :
    value? c = some n ↔ n < 64 ∧ c = symbol standard n := by
  constructor
  · intro h
    obtain ⟨hn, hc⟩ := symbol_of_value? h
    exact ⟨hn, hc.symm⟩
  · rintro ⟨hn, rfl⟩
    exact value?_symbol n hn

/-- The padding is no symbol. -/
theorem value?_padding : value? '=' = none := by
  decide

theorem symbol_ne_padding {n : Nat} (hn : n < 64) : symbol standard n ≠ '=' := by
  intro h
  have hvalue := value?_symbol n hn
  rw [h, value?_padding] at hvalue
  exact absurd hvalue (by simp)

/-! ### Groups -/

section Groups

variable {a b c d : Char} {bytes : List UInt8}

/-- One byte leaves four bits to spare. -/
theorem decodeOne_eq_some_iff :
    decodeOne a b = some bytes ↔ ∃ x, bytes = [x] ∧ encode [x] = [a, b, '=', '='] := by
  simp only [decodeOne, Option.bind_eq_bind, Option.bind_eq_some_iff, value?_eq_some_iff, encode,
    encodeWith, List.cons_append, List.nil_append, List.cons.injEq, and_true]
  constructor
  · rintro ⟨m, ⟨hm, rfl⟩, n, ⟨hn, rfl⟩, h⟩
    split at h
    case isTrue hspare =>
      refine ⟨_, (Option.some_inj.mp h).symm, ?_⟩
      have hx : (UInt8.ofNat ((m * 64 + n) / 16)).toNat * 16 = m * 64 + n := by
        rw [UInt8.toNat_ofNat']
        omega
      rw [hx, show (m * 64 + n) / 64 = m by omega, show (m * 64 + n) % 64 = n by omega]
      exact ⟨rfl, rfl⟩
    case isFalse => exact absurd h (by simp)
  · rintro ⟨x, rfl, rfl, rfl⟩
    have hx := x.toNat_lt
    refine ⟨_, ⟨by omega, rfl⟩, _, ⟨by omega, rfl⟩, ?_⟩
    rw [Nat.div_add_mod', if_pos (by omega), Nat.mul_div_cancel _ (by omega), UInt8.ofNat_toNat]
    rfl

/-- Two bytes leave two bits to spare. -/
theorem decodeTwo_eq_some_iff :
    decodeTwo a b c = some bytes ↔ ∃ x y, bytes = [x, y] ∧ encode [x, y] = [a, b, c, '='] := by
  simp only [decodeTwo, Option.bind_eq_bind, Option.bind_eq_some_iff, value?_eq_some_iff, encode,
    encodeWith, List.cons.injEq, and_true]
  constructor
  · rintro ⟨l, ⟨hl, rfl⟩, m, ⟨hm, rfl⟩, n, ⟨hn, rfl⟩, h⟩
    split at h
    case isTrue hspare =>
      refine ⟨_, _, (Option.some_inj.mp h).symm, ?_⟩
      have hxy : ((UInt8.ofNat (((l * 64 + m) * 64 + n) / 1024)).toNat * 256 +
          (UInt8.ofNat (((l * 64 + m) * 64 + n) / 4 % 256)).toNat) * 4 =
          (l * 64 + m) * 64 + n := by
        rw [UInt8.toNat_ofNat', UInt8.toNat_ofNat']
        omega
      rw [hxy, show ((l * 64 + m) * 64 + n) / 4096 = l by omega,
        show ((l * 64 + m) * 64 + n) / 64 % 64 = m by omega,
        show ((l * 64 + m) * 64 + n) % 64 = n by omega]
      exact ⟨rfl, rfl, rfl⟩
    case isFalse => exact absurd h (by simp)
  · rintro ⟨x, y, rfl, rfl, rfl, rfl⟩
    have hx := x.toNat_lt
    have hy := y.toNat_lt
    refine ⟨_, ⟨by omega, rfl⟩, _, ⟨by omega, rfl⟩, _, ⟨by omega, rfl⟩, ?_⟩
    generalize hn : (x.toNat * 256 + y.toNat) * 4 = n
    rw [show (n / 4096 * 64 + n / 64 % 64) * 64 + n % 64 = n by omega, if_pos (by omega),
      show n / 1024 = x.toNat by omega, show n / 4 % 256 = y.toNat by omega, UInt8.ofNat_toNat,
      UInt8.ofNat_toNat]
    rfl

/-- Three bytes are four symbols and leave nothing. -/
theorem decodeThree_eq_some_iff :
    decodeThree a b c d = some bytes ↔
      ∃ x y z, bytes = [x, y, z] ∧ encode [x, y, z] = [a, b, c, d] := by
  simp only [decodeThree, Option.bind_eq_bind, Option.bind_eq_some_iff, value?_eq_some_iff, encode,
    encodeWith, List.cons.injEq, and_true]
  constructor
  · rintro ⟨k, ⟨hk, rfl⟩, l, ⟨hl, rfl⟩, m, ⟨hm, rfl⟩, n, ⟨hn, rfl⟩, h⟩
    refine ⟨_, _, _, (Option.some_inj.mp h).symm, ?_⟩
    generalize hall : ((k * 64 + l) * 64 + m) * 64 + n = all
    have hxyz : ((UInt8.ofNat (all / 65536)).toNat * 256 +
        (UInt8.ofNat (all / 256 % 256)).toNat) * 256 + (UInt8.ofNat (all % 256)).toNat = all := by
      rw [UInt8.toNat_ofNat', UInt8.toNat_ofNat', UInt8.toNat_ofNat']
      omega
    rw [hxyz, show all / 262144 = k by omega, show all / 4096 % 64 = l by omega,
      show all / 64 % 64 = m by omega, show all % 64 = n by omega]
    exact ⟨rfl, rfl, rfl, rfl⟩
  · rintro ⟨x, y, z, rfl, rfl, rfl, rfl, rfl⟩
    have hx := x.toNat_lt
    have hy := y.toNat_lt
    have hz := z.toNat_lt
    refine ⟨_, ⟨by omega, rfl⟩, _, ⟨by omega, rfl⟩, _, ⟨by omega, rfl⟩, _, ⟨by omega, rfl⟩, ?_⟩
    generalize hall : (x.toNat * 256 + y.toNat) * 256 + z.toNat = all
    rw [show ((all / 262144 * 64 + all / 4096 % 64) * 64 + all / 64 % 64) * 64 + all % 64 = all by
        omega,
      show all / 65536 = x.toNat by omega, show all / 256 % 256 = y.toNat by omega,
      show all % 256 = z.toNat by omega, UInt8.ofNat_toNat, UInt8.ofNat_toNat, UInt8.ofNat_toNat]
    rfl

end Groups

/-! ### Texts -/

section Texts

variable {a b c d : Char} {rest text : List Char} {bytes : List UInt8}

theorem decode_two (hc : c ≠ '=') : decode [a, b, c, '='] = decodeTwo a b c := by
  rw [decode]
  exact hc

theorem decode_three (hd : d ≠ '=') :
    decode (a :: b :: c :: d :: rest) =
      (do return (← decodeThree a b c d) ++ (← decode rest)) := by
  rw [decode]
  · rintro - rfl
    exact absurd rfl hd
  · rintro rfl
    exact absurd rfl hd

/-- The text of a byte string is read, since none of its symbols is taken for padding. -/
theorem decode_encode (bytes : List UInt8) : decode (encode bytes) = some bytes := by
  fun_induction encodeWith standard ['='] bytes with
  | case1 => rfl
  | case2 x => exact decodeOne_eq_some_iff.mpr ⟨x, rfl, rfl⟩
  | case3 x y =>
    have hpair := decodeTwo_eq_some_iff.mpr ⟨x, y, rfl, rfl⟩
    rw [encode, encodeWith, decode_two (symbol_ne_padding (by omega))]
    exact hpair
  | case4 x y z rest _ ih =>
    have hgroup := decodeThree_eq_some_iff.mpr ⟨x, y, z, rfl, rfl⟩
    rw [encode, encodeWith, decode_three (symbol_ne_padding (by omega))]
    rw [← encode, ih, hgroup]
    rfl

/-- A text that is read is cut into groups as it was written. -/
theorem eq_encode_of_decode (h : decode text = some bytes) : text = encode bytes := by
  fun_induction decode text generalizing bytes with
  | case1 =>
    obtain rfl := Option.some_inj.mp h
    rfl
  | case2 a b =>
    obtain ⟨x, rfl, hx⟩ := decodeOne_eq_some_iff.mp h
    exact hx.symm
  | case3 a b c =>
    obtain ⟨x, y, rfl, hxy⟩ := decodeTwo_eq_some_iff.mp h
    exact hxy.symm
  | case4 a b c d rest _ _ ih =>
    obtain ⟨first, hfirst, h⟩ := Option.bind_eq_some_iff.mp h
    obtain ⟨others, hothers, h⟩ := Option.bind_eq_some_iff.mp h
    obtain ⟨x, y, z, rfl, hxyz⟩ := decodeThree_eq_some_iff.mp hfirst
    obtain rfl := Option.some_inj.mp h
    obtain rfl := ih hothers
    show a :: b :: c :: d :: encode others = encode [x, y, z] ++ encode others
    rw [hxyz]
    rfl
  | case5 => exact absurd h (by simp)

/-- Reading accepts just what writing produces. -/
theorem decode_eq_some_iff : decode text = some bytes ↔ text = encode bytes :=
  ⟨eq_encode_of_decode, fun h => h ▸ decode_encode bytes⟩

/-- A text, and the same with a spare bit set, without its padding, and with a blank behind. -/
example : decode ['Z', 'm', '8', '='] = some [102, 111] ∧ decode ['Z', 'm', '9', '='] = none ∧
    decode ['Z', 'm', '8'] = none ∧ decode ['Z', 'm', '8', '=', ' '] = none := by
  decide

theorem encode_injective : Function.Injective encode := by
  intro bytes bytes' h
  have hread := decode_encode bytes
  rw [h, decode_encode, Option.some_inj] at hread
  exact hread.symm

end Texts

end RecordStore.Base64
