import Mathlib.Tactic.SplitIfs
import Sightline.Proofs.Codec.Canonical
import Sightline.Text.Case

/-! Small letters of every script beside those of ASCII. A letter beyond ASCII stays beyond ASCII
when it becomes small, save the sign for kelvins, which becomes a k. So a text of ASCII without a k
is the small form of texts of ASCII only. -/
namespace Sightline.Text

variable {c : Char} {s t : Text}

theorem isUpper_iff : c.isUpper = true ↔ 65 ≤ c.toNat ∧ c.toNat ≤ 90 := by
  have hRange : c.isUpper = decide ('A'.val ≤ c.val ∧ c.val ≤ 'Z'.val) := rfl
  simp [hRange, UInt32.le_iff_toNat_le, ← Char.toNat_val]

theorem toLower_of_not_isUpper (h : ¬c.isUpper = true) : c.toLower = c :=
  dif_neg fun hRange => h (decide_eq_true hRange)

theorem toLower_of_beyond (h : 128 ≤ c.toNat) : c.toLower = c := by
  apply toLower_of_not_isUpper
  rw [isUpper_iff]
  omega

/-- A letter of ASCII has the same small form wherever it stands. -/
theorem small_of_ascii (h : c.toNat < 128) (before after : Text) :
    small before after c = [c.toLower] := by
  have hDotted : c ≠ 'İ' := by
    rintro rfl
    exact absurd h (by decide)
  have hSigma : c ≠ 'Σ' := by
    rintro rfl
    exact absurd h (by decide)
  rw [small, if_neg hDotted, if_neg hSigma, smallLetter?, if_pos h]
  split_ifs with hUpper
  · rfl
  · rw [Option.getD_none, toLower_of_not_isUpper hUpper]

/-- Beyond ASCII, or a k. -/
def IsFar (d : Char) : Prop := 128 ≤ d.toNat ∨ d = 'k'

instance : DecidablePred IsFar := fun d => inferInstanceAs (Decidable (128 ≤ d.toNat ∨ d = 'k'))

/-- A series of capitals has its small letters beyond ASCII, or it is the sign for kelvins. -/
def farSmall (first last : Nat) (distance : Int) : Bool :=
  (first = last && first + distance = 107) ||
    (128 ≤ first + distance &&
      (last + distance < 0xD800 || (0xDFFF < first + distance && last + distance < 0x110000)))

theorem farSmall_capitals :
    ∀ series ∈ capitals, farSmall series.1 series.2.1 series.2.2.2 = true := by
  decide +kernel

theorem isFar_ofNat {first last n : Nat} {distance : Int}
    (h : farSmall first last distance = true) (hFirst : first ≤ n) (hLast : n ≤ last) :
    IsFar (Char.ofNat (n + distance).toNat) := by
  simp only [farSmall, Bool.or_eq_true, Bool.and_eq_true, decide_eq_true_eq] at h
  obtain ⟨hOne, hKelvin⟩ | ⟨hFar, hValid⟩ := h
  · have hNumber : ((n : Int) + distance).toNat = 107 := by omega
    rw [hNumber]
    exact .inr rfl
  · refine .inl ?_
    rw [Codec.toNat_ofNat (by omega)]
    omega

theorem isFar_smallLetter (h : 128 ≤ c.toNat) : IsFar ((smallLetter? c).getD c) := by
  rw [smallLetter?, if_neg (by omega)]
  dsimp only
  generalize hFind : capitals.find? _ = found
  cases found with
  | none => exact .inl h
  | some series =>
      have hIn := List.find?_some hFind
      simp only [Bool.and_eq_true, decide_eq_true_eq] at hIn
      have hFar := farSmall_capitals series (List.mem_of_find?_eq_some hFind)
      exact isFar_ofNat hFar hIn.1.1 hIn.1.2

theorem exists_isFar_small (h : 128 ≤ c.toNat) (before after : Text) :
    ∃ d ∈ small before after c, IsFar d := by
  rw [small]
  split_ifs
  · exact ⟨Char.ofNat 0x307, by simp, .inl (by decide)⟩
  · exact ⟨'ς', by simp, .inl (by decide)⟩
  · exact ⟨'σ', by simp, .inl (by decide)⟩
  · exact ⟨_, List.mem_singleton.mpr rfl, isFar_smallLetter h⟩

theorem lowerFrom_of_ascii (h : ∀ c ∈ s, c.toNat < 128) (before : Text) :
    lowerFrom before s = s.map Char.toLower := by
  induction s generalizing before with
  | nil => rfl
  | cons c s ih =>
      rw [List.forall_mem_cons] at h
      rw [lowerFrom, small_of_ascii h.1, ih h.2, List.map_cons, List.singleton_append]

theorem exists_isFar_lowerFrom (hMem : c ∈ s) (h : 128 ≤ c.toNat) (before : Text) :
    ∃ d ∈ lowerFrom before s, IsFar d := by
  induction s generalizing before with
  | nil => cases hMem
  | cons first s ih =>
      rw [lowerFrom]
      cases hMem with
      | head =>
          obtain ⟨d, hIn, hFar⟩ := exists_isFar_small h before s
          exact ⟨d, List.mem_append_left _ hIn, hFar⟩
      | tail _ hMem =>
          obtain ⟨d, hIn, hFar⟩ := ih hMem (first :: before)
          exact ⟨d, List.mem_append_right _ hIn, hFar⟩

/-- For a text of ASCII without a k it makes no difference whether small letters are made of those
of every script or of those of ASCII alone. -/
theorem lower_eq_iff (h : ∀ d ∈ t, ¬IsFar d) : lower s = t ↔ s.map Char.toLower = t := by
  by_cases hAscii : ∀ c ∈ s, c.toNat < 128
  · rw [lower, lowerFrom_of_ascii hAscii]
  · obtain ⟨c, hMem, hBeyond⟩ : ∃ c ∈ s, 128 ≤ c.toNat := by simpa using hAscii
    constructor
    · rintro rfl
      obtain ⟨d, hIn, hFar⟩ := exists_isFar_lowerFrom hMem hBeyond []
      exact absurd hFar (h d hIn)
    · rintro rfl
      refine absurd (.inl hBeyond) (h c (List.mem_map.mpr ⟨c, hMem, ?_⟩))
      exact toLower_of_beyond hBeyond

end Sightline.Text
