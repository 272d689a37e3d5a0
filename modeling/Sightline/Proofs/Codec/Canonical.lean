import Mathlib.Algebra.Group.Nat.Defs
import Mathlib.Data.List.Basic
import Sightline.Proofs.Codec.RoundTrip

/-! Octets that are read as a text are the octets of that text. The strict decoders
take no second spelling of a character, so reading in UTF-8, in Latin-1 or in ASCII
forgets nothing, and the first 128 characters are told from the octets alone. -/
namespace Sightline

namespace Codec

theorem toNat_ofNat {n : Nat} (h : n < 0xD800 ∨ 0xDFFF < n ∧ n < 0x110000) :
    (Char.ofNat n).toNat = n := by
  rw [Char.ofNat, dif_pos h]
  rfl

theorem toUInt8_toNat (b : UInt8) : b.toNat.toUInt8 = b :=
  UInt8.ofNat_toNat

/-- Nothing is put in front of a flaw. -/
theorem Decoded.cons_eq_ok {c : Char} {d : Decoded} {s : Text} {tail : Bytes}
    (h : d.cons c = .ok (s, tail)) : ∃ t, d = .ok (t, tail) ∧ s = c :: t := by
  cases d with
  | error flaw => cases h
  | ok r =>
      cases h
      exact ⟨r.1, rfl, rfl⟩

namespace Utf8

/-- The octets for the last six-bit groups of a number, `owed` of them. -/
def inner (n : Nat) : Nat → Bytes
  | 0 => []
  | owed + 1 => (0x80 + n / 64 ^ owed % 64).toUInt8 :: inner n owed

/-- What has been read starts the octets of every character whose number goes on within
the bounds. -/
structure Pending.Begins (p : Pending) : Prop where
  owes : p.owed ≠ 0
  low : 0x80 ≤ p.low
  high : p.high ≤ 0xBF
  encodes : ∀ n, n / 64 ^ p.owed = p.value → p.low ≤ 0x80 + n / 64 ^ (p.owed - 1) % 64 →
    0x80 + n / 64 ^ (p.owed - 1) % 64 ≤ p.high →
    encodeChar (Char.ofNat n) = p.octets ++ inner n p.owed

variable {b : UInt8} {p : Pending} {offset : Nat} {octets tail : Bytes} {s : Text}

theorem begins_two (hLow : 0xC2 ≤ b.toNat) (hHigh : b.toNat < 0xE0) :
    Pending.Begins ⟨[b], b.toNat - 0xC0, 1, 0x80, 0xBF⟩ := by
  refine ⟨Nat.one_ne_zero, Nat.le_refl _, Nat.le_refl _, fun n hn _ _ => ?_⟩
  have hLead : 0xC0 + n / 64 = b.toNat := by simp only [Nat.pow_one] at hn; omega
  rw [encodeChar, toNat_ofNat (by omega), if_neg (by omega), if_pos (by omega), hLead,
    toUInt8_toNat]
  simp [inner]

theorem begins_three (hLow : 0xE0 ≤ b.toNat) (hHigh : b.toNat < 0xF0) :
    Pending.Begins ⟨[b], b.toNat - 0xE0, 2, if b.toNat = 0xE0 then 0xA0 else 0x80,
      if b.toNat = 0xED then 0x9F else 0xBF⟩ := by
  refine ⟨by simp, by dsimp only; split <;> decide, by dsimp only; split <;> decide, ?_⟩
  intro n hn hSecond hSecond'
  have hLead : 0xE0 + n / 4096 = b.toNat := by simp only [Nat.reducePow] at hn; omega
  simp only [Nat.add_one_sub_one, Nat.pow_one] at hSecond hSecond'
  have hLong : 0x800 ≤ n := by split at hSecond <;> omega
  have hValid : n < 0xD800 ∨ 0xDFFF < n ∧ n < 0x110000 := by split at hSecond' <;> omega
  rw [encodeChar, toNat_ofNat hValid, if_neg (by omega), if_neg (by omega), if_pos (by omega),
    hLead, toUInt8_toNat]
  simp [inner]

theorem begins_four (hLow : 0xF0 ≤ b.toNat) (hHigh : b.toNat < 0xF5) :
    Pending.Begins ⟨[b], b.toNat - 0xF0, 3, if b.toNat = 0xF0 then 0x90 else 0x80,
      if b.toNat = 0xF4 then 0x8F else 0xBF⟩ := by
  refine ⟨by simp, by dsimp only; split <;> decide, by dsimp only; split <;> decide, ?_⟩
  intro n hn hSecond hSecond'
  have hLead : 0xF0 + n / 262144 = b.toNat := by simp only [Nat.reducePow] at hn; omega
  simp only [Nat.add_one_sub_one, Nat.reducePow] at hSecond hSecond'
  have hLong : 0x10000 ≤ n := by split at hSecond <;> omega
  have hValid : n < 0x110000 := by split at hSecond' <;> omega
  rw [encodeChar, toNat_ofNat (by omega), if_neg (by omega), if_neg (by omega),
    if_neg (by omega), hLead, toUInt8_toNat]
  simp [inner]

theorem encodeChar_of_lead? {c : Char} (h : lead? b = some (.inl c)) : encodeChar c = [b] := by
  simp only [lead?] at h
  split at h
  next hOne =>
    cases h
    rw [encodeChar, toNat_ofNat (by omega), if_pos hOne, toUInt8_toNat]
  · repeat' split at h
    all_goals simp at h

/-- The bounds of the second octet leave out what has a shorter spelling and what is no
character. -/
theorem begins_of_lead? (h : lead? b = some (.inr p)) : p.Begins ∧ p.octets = [b] := by
  simp only [lead?] at h
  split at h
  · cases h
  split at h
  · cases h
  next hLow =>
    split at h
    next hHigh =>
      cases h
      exact ⟨begins_two (by omega) hHigh, rfl⟩
    next hLow =>
      split at h
      next hHigh =>
        cases h
        exact ⟨begins_three (by omega) hHigh, rfl⟩
      next hLow =>
        split at h
        next hHigh =>
          cases h
          exact ⟨begins_four (by omega) hHigh, rfl⟩
        · cases h

/-- An octet within the bounds goes on with the character, or ends it. -/
theorem Pending.Begins.next (hp : p.Begins) (hLow : p.low ≤ b.toNat) (hHigh : b.toNat ≤ p.high) :
    if p.owed = 1 then encodeChar (Char.ofNat (p.value * 64 + (b.toNat - 0x80))) = p.octets ++ [b]
    else Pending.Begins ⟨p.octets ++ [b], p.value * 64 + (b.toNat - 0x80), p.owed - 1,
      0x80, 0xBF⟩ := by
  have hFloor := hp.low
  have hRoof := hp.high
  obtain ⟨owed, hOwed⟩ := Nat.exists_eq_succ_of_ne_zero hp.owes
  have hEncodes := hp.encodes
  have hOctet : 0x80 + (b.toNat - 0x80) = b.toNat := by omega
  simp only [hOwed, Nat.succ_eq_add_one, Nat.add_one_sub_one] at hEncodes ⊢
  have hStep {n : Nat} (hn : n / 64 ^ owed = p.value * 64 + (b.toNat - 0x80)) :
      encodeChar (Char.ofNat n) = p.octets ++ [b] ++ inner n owed := by
    have hGroup : 0x80 + n / 64 ^ owed % 64 = b.toNat := by omega
    have hValue : n / 64 ^ (owed + 1) = p.value := by
      rw [Nat.pow_succ, ← Nat.div_div_eq_div_mul]
      omega
    rw [hEncodes n hValue (by omega) (by omega), inner, hGroup, toUInt8_toNat, List.append_assoc,
      List.singleton_append]
  split
  next hLast =>
    obtain rfl : owed = 0 := by omega
    exact (hStep (Nat.div_one _)).trans (List.append_nil _)
  next hMore =>
    refine ⟨by dsimp only; omega, Nat.le_refl _, Nat.le_refl _, fun n hn _ _ => hStep hn⟩

/-- The octets of the character that is begun, if one is. -/
def begun : Option Pending → Bytes
  | none => []
  | some p => p.octets

/-- Octets that are read as a text are the octets of that text. -/
theorem encode_of_decodeFrom {pending : Option Pending} (hPending : ∀ p ∈ pending, p.Begins)
    (h : decodeFrom offset pending octets = .ok (s, tail)) :
    begun pending ++ octets = encode s ++ tail := by
  induction octets generalizing offset pending s with
  | nil =>
      cases pending with
      | none | some p =>
          cases h
          simp [begun, encode]
  | cons b rest ih =>
      cases pending with
      | none =>
          rw [decodeFrom] at h
          split at h
          next c hLead =>
            obtain ⟨t, hRest, rfl⟩ := Decoded.cons_eq_ok h
            have hTail := ih (by simp) hRest
            change [b] ++ rest = encodeChar c ++ encode t ++ tail
            rw [encodeChar_of_lead? hLead, List.append_assoc, ← hTail]
            rfl
          next p hLead =>
            obtain ⟨hBegins, hOctets⟩ := begins_of_lead? hLead
            have hTail := ih (by simpa using hBegins) h
            rwa [begun, hOctets] at hTail
          · cases h
      | some p =>
          have hp : p.Begins := hPending p rfl
          rw [decodeFrom] at h
          split at h
          next hBounds =>
            obtain ⟨hLow, hHigh⟩ : p.low ≤ b.toNat ∧ b.toNat ≤ p.high := by simpa using hBounds
            have hNext := hp.next hLow hHigh
            split at h
            next hLast =>
              rw [if_pos hLast] at hNext
              obtain ⟨t, hRest, rfl⟩ := Decoded.cons_eq_ok h
              have hTail := ih (by simp) hRest
              change p.octets ++ (b :: rest) = encodeChar _ ++ encode t ++ tail
              rw [hNext, List.append_assoc, ← hTail]
              simp [begun]
            next hMore =>
              rw [if_neg hMore] at hNext
              have hTail := ih (by simpa using hNext) h
              simpa [begun] using hTail
          · cases h

end Utf8

namespace OneOctet

theorem toNat_ofNat_octet (b : UInt8) : (Char.ofNat b.toNat).toNat = b.toNat :=
  toNat_ofNat (.inl (Nat.lt_trans b.toNat_lt (by decide)))

theorem encodeFrom_decodeAll (codec : String) (octets : Bytes) :
    encodeFrom codec 256 0 (decodeAll octets) = .ok octets := by
  rw [encodeFrom_eq_ok_iff, decodeAll, List.map_map]
  refine ⟨List.forall_mem_map.mpr fun b _ => ?_, ?_⟩
  · rw [toNat_ofNat_octet]
    exact b.toNat_lt
  · refine (List.map_congr_left fun b _ => ?_).trans (List.map_id octets)
    rw [Function.comp_apply, toNat_ofNat_octet, toUInt8_toNat, id]

theorem encodeFrom_of_decodeBelow {size offset : Nat} {octets tail : Bytes} {s : Text}
    (h : decodeBelow size offset octets = .ok (s, tail)) (codec : String) (start : Nat) :
    encodeFrom codec size start s = .ok octets := by
  induction octets generalizing offset start s with
  | nil =>
      cases h
      rfl
  | cons b rest ih =>
      rw [decodeBelow] at h
      split at h
      next hb =>
        obtain ⟨t, hRest, rfl⟩ := Decoded.cons_eq_ok h
        rw [encodeFrom, toNat_ofNat_octet, if_pos hb, ih hRest, toUInt8_toNat]
        rfl
      · cases h

end OneOctet

/-- A spelling gives a character below 0x80 as its number, and any other character in octets
from 0x80 on. -/
def Transparent (spell : Char → Bytes) (c : Char) : Prop :=
  if c.toNat < 0x80 then spell c = [c.toNat.toUInt8]
  else spell c ≠ [] ∧ ∀ b ∈ spell c, 0x80 ≤ b.toNat

theorem Utf8.transparent_encodeChar (c : Char) : Transparent encodeChar c := by
  have hValid := toNat_valid c
  have hOctet {m : Nat} (hm : 0x80 ≤ m) (hm' : m < 256) : 0x80 ≤ m.toUInt8.toNat := by
    rwa [toNat_toUInt8 hm']
  rw [Transparent, encodeChar]
  generalize c.toNat = n at *
  split_ifs with hOne hTwo hThree
  · rfl
  all_goals
    simp only [List.forall_mem_cons, List.not_mem_nil, false_implies, implies_true, and_true]
  · exact ⟨List.cons_ne_nil _ _, hOctet (by omega) (by omega), hOctet (by omega) (by omega)⟩
  · exact ⟨List.cons_ne_nil _ _, hOctet (by omega) (by omega), hOctet (by omega) (by omega),
      hOctet (by omega) (by omega)⟩
  · exact ⟨List.cons_ne_nil _ _, hOctet (by omega) (by omega), hOctet (by omega) (by omega),
      hOctet (by omega) (by omega), hOctet (by omega) (by omega)⟩

theorem OneOctet.transparent {c : Char} (h : c.toNat < 256) :
    Transparent (fun c => [c.toNat.toUInt8]) c := by
  rw [Transparent]
  split_ifs with hOne
  · rfl
  · simpa [toNat_toUInt8 h] using hOne

section Transparent

variable {spell : Char → Bytes} {c d : Char}

theorem Transparent.mem_iff (h : Transparent spell d) (hc : c.toNat < 0x80) :
    c.toNat.toUInt8 ∈ spell d ↔ c = d := by
  have hOctet : c.toNat.toUInt8.toNat = c.toNat := toNat_toUInt8 (by omega)
  rw [Transparent] at h
  split_ifs at h with hd
  · rw [h, List.mem_singleton]
    constructor
    · intro hEq
      have hNat := congrArg UInt8.toNat hEq
      rw [hOctet, toNat_toUInt8 (by omega)] at hNat
      exact Char.toNat_inj.mp hNat
    · rintro rfl
      rfl
  · constructor
    · intro hMem
      have hHigh := h.2 _ hMem
      omega
    · rintro rfl
      omega

theorem Transparent.getLast?_iff (h : Transparent spell d) (hc : c.toNat < 0x80) :
    (spell d).getLast? = some c.toNat.toUInt8 ↔ c = d := by
  refine ⟨fun hLast => (h.mem_iff hc).mp (List.mem_of_getLast? hLast), ?_⟩
  rintro rfl
  rw [Transparent, if_pos hc] at h
  rw [h]
  rfl

theorem Transparent.ne_nil (h : Transparent spell d) : spell d ≠ [] := by
  rw [Transparent] at h
  split_ifs at h
  · rw [h]
    exact List.cons_ne_nil _ _
  · exact h.1

theorem mem_flatMap_spell {s : Text} (h : ∀ d ∈ s, Transparent spell d) (hc : c.toNat < 0x80) :
    c.toNat.toUInt8 ∈ s.flatMap spell ↔ c ∈ s := by
  rw [List.mem_flatMap]
  constructor
  · rintro ⟨d, hd, hMem⟩
    rwa [((h d hd).mem_iff hc).mp hMem]
  · intro hMem
    exact ⟨c, hMem, ((h c hMem).mem_iff hc).mpr rfl⟩

theorem getLast?_flatMap_spell {s : Text} (h : ∀ d ∈ s, Transparent spell d)
    (hc : c.toNat < 0x80) :
    (s.flatMap spell).getLast? = some c.toNat.toUInt8 ↔ s.getLast? = some c := by
  obtain rfl | ⟨t, d, rfl⟩ := s.eq_nil_or_concat
  · simp
  · have hd := h d (by simp)
    rw [List.concat_eq_append, List.flatMap_append, List.flatMap_singleton,
      List.getLast?_append_of_ne_nil _ hd.ne_nil, hd.getLast?_iff hc, List.getLast?_concat,
      Option.some.injEq, eq_comm]

end Transparent

end Codec

namespace Encoding

/-- The encodings that spell a text in one way, with no mark in front. -/
def Canonical (e : Encoding) : Prop := e = utf8 ∨ e = latin1 ∨ e = ascii

instance (e : Encoding) : Decidable e.Canonical :=
  inferInstanceAs (Decidable (e = utf8 ∨ e = latin1 ∨ e = ascii))

theorem finish_eq_ok {codec : String} {early : Bytes → Codec.Reason}
    {told : Codec.Flaw → Codec.Flaw} {d : Codec.Decoded} {s : Text}
    (h : finish codec early told d = .ok s) : d = .ok (s, []) := by
  unfold finish at h
  split at h <;> cases h
  rfl

theorem encode_of_decode {e : Encoding} (he : e.Canonical) {octets : Bytes} {s : Text}
    (h : e.decode octets = .ok s) : e.encode s = .ok octets := by
  obtain rfl | rfl | rfl := he
  · have hOctets := Codec.Utf8.encode_of_decodeFrom (by simp) (finish_eq_ok h)
    rw [List.append_nil] at hOctets
    exact congrArg Except.ok hOctets.symm
  · cases h
    exact Codec.OneOctet.encodeFrom_decodeAll "latin-1" octets
  · exact Codec.OneOctet.encodeFrom_of_decodeBelow (finish_eq_ok h) "ascii" 0

/-- The octets of a text are its characters spelled one after the other, those of ASCII as
themselves. -/
theorem exists_spell {e : Encoding} (he : e.Canonical) {octets : Bytes} {s : Text}
    (h : e.encode s = .ok octets) :
    ∃ spell, octets = s.flatMap spell ∧ ∀ c ∈ s, Codec.Transparent spell c := by
  obtain rfl | rfl | rfl := he
  · cases h
    exact ⟨_, rfl, fun c _ => Codec.Utf8.transparent_encodeChar c⟩
  all_goals
    obtain ⟨hs, rfl⟩ := (Codec.OneOctet.encodeFrom_eq_ok_iff _ _ _ _ _).mp h
    refine ⟨_, List.map_eq_flatMap, fun c hc => Codec.OneOctet.transparent ?_⟩
    have hBound := hs c hc
    omega

theorem mem_octets_iff {e : Encoding} (he : e.Canonical) {octets : Bytes} {s : Text}
    (h : e.encode s = .ok octets) {c : Char} (hc : c.toNat < 0x80) :
    c.toNat.toUInt8 ∈ octets ↔ c ∈ s := by
  obtain ⟨spell, rfl, hSpell⟩ := exists_spell he h
  exact Codec.mem_flatMap_spell hSpell hc

theorem getLast?_octets_iff {e : Encoding} (he : e.Canonical) {octets : Bytes} {s : Text}
    (h : e.encode s = .ok octets) {c : Char} (hc : c.toNat < 0x80) :
    octets.getLast? = some c.toNat.toUInt8 ↔ s.getLast? = some c := by
  obtain ⟨spell, rfl, hSpell⟩ := exists_spell he h
  exact Codec.getLast?_flatMap_spell hSpell hc

end Encoding

end Sightline
