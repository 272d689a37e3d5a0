import Mathlib.Tactic.SplitIfs
import Sightline.Codec.Encoding

/-! Encoded text, read back. Every encoding gives a text of its own characters in
octets from which exactly that text is read again, and the octets of a text are those
of its parts one after the other. The mark in front is no part of the text. -/
namespace Sightline

namespace Codec

theorem toNat_toUInt8 {n : Nat} (h : n < 256) : n.toUInt8.toNat = n :=
  UInt8.toNat_ofNat_of_lt h

theorem toNat_valid (c : Char) :
    c.toNat < 0xD800 ∨ 0xDFFF < c.toNat ∧ c.toNat < 0x110000 :=
  c.valid

@[simp] theorem Decoded.cons_ok (c : Char) (s : Text) (tail : Bytes) :
    Decoded.cons c (.ok (s, tail)) = .ok (c :: s, tail) := rfl

namespace Utf8

theorem lead?_two {v : Nat} (hLow : 2 ≤ v) (hHigh : v < 0x20) : lead? (0xC0 + v).toUInt8 =
    some (.inr ⟨[(0xC0 + v).toUInt8], v, 1, 0x80, 0xBF⟩) := by
  have hOctet : (0xC0 + v).toUInt8.toNat = 0xC0 + v := toNat_toUInt8 (by omega)
  simp only [lead?, hOctet]
  rw [if_neg (by omega), if_neg (by omega), if_pos (by omega), Nat.add_sub_cancel_left]

theorem lead?_three {v : Nat} (h : v < 0x10) : lead? (0xE0 + v).toUInt8 =
    some (.inr ⟨[(0xE0 + v).toUInt8], v, 2, if v = 0 then 0xA0 else 0x80,
      if v = 0xD then 0x9F else 0xBF⟩) := by
  have hOctet : (0xE0 + v).toUInt8.toNat = 0xE0 + v := toNat_toUInt8 (by omega)
  simp only [lead?, hOctet]
  rw [if_neg (by omega), if_neg (by omega), if_neg (by omega), if_pos (by omega),
    Nat.add_sub_cancel_left]
  simp only [Nat.add_eq_left, show 0xE0 + v = 0xED ↔ v = 0xD by omega]

theorem lead?_four {v : Nat} (h : v < 5) : lead? (0xF0 + v).toUInt8 =
    some (.inr ⟨[(0xF0 + v).toUInt8], v, 3, if v = 0 then 0x90 else 0x80,
      if v = 4 then 0x8F else 0xBF⟩) := by
  have hOctet : (0xF0 + v).toUInt8.toNat = 0xF0 + v := toNat_toUInt8 (by omega)
  simp only [lead?, hOctet]
  rw [if_neg (by omega), if_neg (by omega), if_neg (by omega), if_neg (by omega),
    if_pos (by omega), Nat.add_sub_cancel_left]
  simp only [Nat.add_eq_left, show 0xF0 + v = 0xF4 ↔ v = 4 by omega]

theorem decodeFrom_lead {b : UInt8} {p : Pending} (h : lead? b = some (.inr p)) (offset : Nat)
    (rest : Bytes) : decodeFrom offset none (b :: rest) = decodeFrom offset (some p) rest := by
  rw [decodeFrom, h]

variable {octets : Bytes} {value low high m : Nat}

/-- An octet inside a character carries six more bits. -/
theorem decodeFrom_inner (hm : m < 64) (hLow : low ≤ 0x80 + m) (hHigh : 0x80 + m ≤ high)
    {owed : Nat} (hOwed : owed ≠ 0) (offset : Nat) (rest : Bytes) :
    decodeFrom offset (some ⟨octets, value, owed + 1, low, high⟩) ((0x80 + m).toUInt8 :: rest) =
      decodeFrom offset
        (some ⟨octets ++ [(0x80 + m).toUInt8], value * 64 + m, owed, 0x80, 0xBF⟩) rest := by
  have hOctet : (0x80 + m).toUInt8.toNat = 0x80 + m := toNat_toUInt8 (by omega)
  simp only [decodeFrom, hOctet, hLow, hHigh, decide_true, Bool.and_true, if_true,
    Nat.add_sub_cancel, Nat.add_sub_cancel_left, Nat.add_eq_right, hOwed, if_false]

theorem decodeFrom_last (hm : m < 64) (hLow : low ≤ 0x80 + m) (hHigh : 0x80 + m ≤ high)
    (offset : Nat) (rest : Bytes) :
    decodeFrom offset (some ⟨octets, value, 1, low, high⟩) ((0x80 + m).toUInt8 :: rest) =
      (decodeFrom (offset + octets.length + 1) none rest).cons (Char.ofNat (value * 64 + m)) := by
  have hOctet : (0x80 + m).toUInt8.toNat = 0x80 + m := toNat_toUInt8 (by omega)
  simp only [decodeFrom, hOctet, hLow, hHigh, decide_true, Bool.and_true, if_true,
    Nat.add_sub_cancel_left]

/-- A character is read from its octets, and reading goes on behind them. -/
theorem decodeFrom_encodeChar (offset : Nat) (c : Char) (rest : Bytes) :
    decodeFrom offset none (encodeChar c ++ rest) =
      (decodeFrom (offset + (encodeChar c).length) none rest).cons c := by
  have hChar : Char.ofNat c.toNat = c := Char.ofNat_toNat c
  have hValid := toNat_valid c
  simp only [encodeChar]
  generalize c.toNat = n at *
  have hSix (k : Nat) : k % 64 < 64 := Nat.mod_lt k (by decide)
  split_ifs with hOne hTwo hThree
  · have hLead : lead? n.toUInt8 = some (.inl c) := by
      simp only [lead?, toNat_toUInt8 (show n < 256 by omega), hOne, if_true, hChar]
    simp [decodeFrom, hLead]
  · have hValue : n / 64 * 64 + n % 64 = n := Nat.div_add_mod' n 64
    simp only [List.cons_append, List.nil_append]
    rw [decodeFrom_lead (lead?_two (by omega) (by omega)),
      decodeFrom_last (hSix n) (by omega) (by omega), hValue, hChar]
    rfl
  · have hValue : (n / 4096 * 64 + n / 64 % 64) * 64 + n % 64 = n := by omega
    have hLow : (if n / 4096 = 0 then 0xA0 else 0x80) ≤ 0x80 + n / 64 % 64 := by
      split <;> omega
    have hHigh : 0x80 + n / 64 % 64 ≤ if n / 4096 = 0xD then 0x9F else 0xBF := by
      split <;> omega
    simp only [List.cons_append, List.nil_append]
    rw [decodeFrom_lead (lead?_three (by omega)),
      decodeFrom_inner (hSix _) hLow hHigh (by decide : 1 ≠ 0),
      decodeFrom_last (hSix n) (by omega) (by omega), hValue, hChar]
    rfl
  · have hValue : ((n / 262144 * 64 + n / 4096 % 64) * 64 + n / 64 % 64) * 64 + n % 64 = n := by
      omega
    have hLow : (if n / 262144 = 0 then 0x90 else 0x80) ≤ 0x80 + n / 4096 % 64 := by
      split <;> omega
    have hHigh : 0x80 + n / 4096 % 64 ≤ if n / 262144 = 4 then 0x8F else 0xBF := by
      split <;> omega
    simp only [List.cons_append, List.nil_append]
    rw [decodeFrom_lead (lead?_four (by omega)),
      decodeFrom_inner (hSix _) hLow hHigh (by decide : 2 ≠ 0),
      decodeFrom_inner (hSix _) (by omega) (by omega) (by decide : 1 ≠ 0),
      decodeFrom_last (hSix n) (by omega) (by omega), hValue, hChar]
    rfl

theorem decodeFrom_encode (offset : Nat) (s : Text) :
    decodeFrom offset none (encode s) = .ok (s, []) := by
  induction s generalizing offset with
  | nil => rfl
  | cons c s ih =>
      change decodeFrom offset none (encodeChar c ++ encode s) = _
      rw [decodeFrom_encodeChar, ih, Decoded.cons_ok]

end Utf8

namespace Utf16

theorem unit_octets {n : Nat} (h : n < 0x10000) :
    unit .littleEndian (n % 256).toUInt8 (n / 256).toUInt8 = n := by
  rw [unit, toNat_toUInt8 (by omega), toNat_toUInt8 (by omega)]
  omega

/-- A unit that is no half of a pair is a character. -/
theorem decodeFrom_unit {order : Order} {x y : UInt8} {n : Nat} (hUnit : unit order x y = n)
    (h : n < 0xD800 ∨ 0xDFFF < n) (offset : Nat) (rest : Bytes) :
    decodeFrom order offset (x :: y :: rest) =
      (decodeFrom order (offset + 2) rest).cons (Char.ofNat n) := by
  rw [decodeFrom.eq_def]
  simp [hUnit, h]

/-- A leading and a trailing unit are one character. -/
theorem decodeFrom_pair {order : Order} {x y x' y' : UInt8} {high low : Nat}
    (hHigh : unit order x y = 0xD800 + high) (hLow : unit order x' y' = 0xDC00 + low)
    (hHighBound : high < 0x400) (hLowBound : low < 0x400) (offset : Nat) (rest : Bytes) :
    decodeFrom order offset (x :: y :: x' :: y' :: rest) =
      (decodeFrom order (offset + 4) rest).cons (Char.ofNat (0x10000 + high * 1024 + low)) := by
  have hLeading : (0xD800 + high < 0xD800 || 0xDFFF < 0xD800 + high) = false := by
    simp only [Bool.or_eq_false_iff, decide_eq_false_iff_not]
    omega
  have hTrailing : (0xDC00 ≤ 0xDC00 + low && 0xDC00 + low ≤ 0xDFFF) = true := by
    simp only [Bool.and_eq_true, decide_eq_true_eq]
    omega
  simp only [decodeFrom, hHigh, hLow, hLeading, hTrailing, Bool.false_eq_true, if_false, if_true,
    Nat.add_sub_cancel_left]
  rw [if_pos (by omega)]

/-- A character is read from its octets, and reading goes on behind them. -/
theorem decodeFrom_encodeChar (offset : Nat) (c : Char) (rest : Bytes) :
    decodeFrom .littleEndian offset (encodeChar c ++ rest) =
      (decodeFrom .littleEndian (offset + (encodeChar c).length) rest).cons c := by
  have hChar : Char.ofNat c.toNat = c := Char.ofNat_toNat c
  have hValid := toNat_valid c
  simp only [encodeChar]
  generalize c.toNat = n at *
  split_ifs with hOne
  · simp only [unitOctets, List.cons_append, List.nil_append]
    rw [decodeFrom_unit (unit_octets hOne) (by omega), hChar]
    rfl
  · have hValue : 0x10000 + (n - 0x10000) / 1024 * 1024 + (n - 0x10000) % 1024 = n := by omega
    simp only [unitOctets, List.cons_append, List.nil_append]
    rw [decodeFrom_pair (unit_octets (by omega)) (unit_octets (by omega)) (by omega) (by omega),
      hValue, hChar]
    rfl

theorem decodeFrom_encode (offset : Nat) (s : Text) :
    decodeFrom .littleEndian offset (encode s) = .ok (s, []) := by
  induction s generalizing offset with
  | nil => rfl
  | cons c s ih =>
      change decodeFrom .littleEndian offset (encodeChar c ++ encode s) = _
      rw [decodeFrom_encodeChar, ih, Decoded.cons_ok]

end Utf16

namespace OneOctet

/-- A text is encoded when all its characters are among those of the encoding. -/
theorem encodeFrom_eq_ok_iff (codec : String) (size offset : Nat) (s : Text) (octets : Bytes) :
    encodeFrom codec size offset s = .ok octets ↔
      (∀ c ∈ s, c.toNat < size) ∧ s.map (fun c => c.toNat.toUInt8) = octets := by
  induction s generalizing offset octets with
  | nil => simp [encodeFrom, eq_comm]
  | cons c s ih =>
      rw [encodeFrom]
      split_ifs with hc
      · constructor
        · intro h
          cases hRest : encodeFrom codec size (offset + 1) s with
          | error fault => simp [hRest, Except.map] at h
          | ok rest =>
              obtain ⟨hAll, rfl⟩ := (ih (offset + 1) rest).mp hRest
              rw [hRest] at h
              exact ⟨List.forall_mem_cons.mpr ⟨hc, hAll⟩, Except.ok.inj h⟩
        · rintro ⟨hAll, rfl⟩
          rw [(ih (offset + 1) _).mpr ⟨(List.forall_mem_cons.mp hAll).2, rfl⟩]
          rfl
      · simp [hc]

theorem toChar_toUInt8 {c : Char} (h : c.toNat < 256) :
    Char.ofNat c.toNat.toUInt8.toNat = c := by
  rw [toNat_toUInt8 h, Char.ofNat_toNat]

theorem decodeAll_map {s : Text} (h : ∀ c ∈ s, c.toNat < 256) :
    decodeAll (s.map fun c => c.toNat.toUInt8) = s := by
  rw [decodeAll, List.map_map]
  exact (List.map_congr_left fun c hc => toChar_toUInt8 (h c hc)).trans (List.map_id s)

theorem decodeBelow_map {size : Nat} (hSize : size ≤ 256) (offset : Nat) {s : Text}
    (h : ∀ c ∈ s, c.toNat < size) :
    decodeBelow size offset (s.map fun c => c.toNat.toUInt8) = .ok (s, []) := by
  induction s generalizing offset with
  | nil => rfl
  | cons c s ih =>
      obtain ⟨hc, hs⟩ := List.forall_mem_cons.mp h
      have hOctet : c.toNat < 256 := Nat.lt_of_lt_of_le hc hSize
      rw [List.map_cons, decodeBelow, toNat_toUInt8 hOctet, if_pos hc, ih _ hs, Decoded.cons_ok,
        Char.ofNat_toNat]

end OneOctet

end Codec

namespace Encoding

/-- A text is encoded part by part. -/
theorem encode_append {e : Encoding} {s t : Text} {first second : Bytes}
    (hFirst : e.encode s = .ok first) (hSecond : e.encode t = .ok second) :
    e.encode (s ++ t) = .ok (first ++ second) := by
  cases e with
  | utf8 | markedUtf8 =>
      cases hFirst
      cases hSecond
      simp [encode, Codec.Utf8.encode]
  | utf16 =>
      cases hFirst
      cases hSecond
      simp [encode, Codec.Utf16.encode]
  | latin1 | ascii =>
      simp only [encode, Codec.OneOctet.encode, Codec.OneOctet.encodeFrom_eq_ok_iff] at *
      obtain ⟨hs, rfl⟩ := hFirst
      obtain ⟨ht, rfl⟩ := hSecond
      exact ⟨List.forall_mem_append.mpr ⟨hs, ht⟩, List.map_append⟩

theorem decodeUtf8_append (front : Bytes) (s : Text) :
    decodeUtf8 front.length (front ++ Codec.Utf8.encode s) = .ok s := by
  rw [decodeUtf8, List.drop_left, Codec.Utf8.decodeFrom_encode]
  rfl

theorem decodeUtf16_append (front : Bytes) (s : Text) :
    decodeUtf16 .littleEndian front.length (front ++ Codec.Utf16.encode s) = .ok s := by
  rw [decodeUtf16, List.drop_left, Codec.Utf16.decodeFrom_encode]
  rfl

theorem decode_mark_append {e : Encoding} {s : Text} {octets : Bytes}
    (h : e.encode s = .ok octets) : e.decode (e.mark ++ octets) = .ok s := by
  cases e with
  | utf8 =>
      cases h
      exact decodeUtf8_append [] s
  | markedUtf8 =>
      cases h
      exact decodeUtf8_append (mark markedUtf8) s
  | utf16 =>
      cases h
      exact decodeUtf16_append (mark utf16) s
  | latin1 =>
      obtain ⟨hs, rfl⟩ := (Codec.OneOctet.encodeFrom_eq_ok_iff _ _ _ _ _).mp h
      exact congrArg Except.ok (Codec.OneOctet.decodeAll_map hs)
  | ascii =>
      obtain ⟨hs, rfl⟩ := (Codec.OneOctet.encodeFrom_eq_ok_iff _ _ _ _ _).mp h
      simp only [decode, mark, List.nil_append,
        Codec.OneOctet.decodeBelow_map (show 128 ≤ 256 by decide) 0 hs, finish]

theorem eq_nil_of_encode {e : Encoding} {s : Text} (h : e.encode s = .ok []) : s = [] := by
  have hNil : e.encode [] = .ok [] := by cases e <;> rfl
  exact Except.ok.inj ((decode_mark_append h).symm.trans (decode_mark_append hNil))

end Encoding

end Sightline
