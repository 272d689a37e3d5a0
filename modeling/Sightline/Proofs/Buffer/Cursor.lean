import Sightline.Proofs.Buffer.Indexed
import Sightline.Proofs.Buffer.Journal

/-! Where operations leave the cursor. It stays between the place in front of the first line
and the one behind the last, and a search leaves it at the place for misses exactly when it
finds nothing. -/
namespace Sightline.Buffer

/-- The cursor is on a line, in front of the first, or behind the last. -/
structure InRange (b : Buffer) : Prop where
  low : -1 ≤ b.position
  high : b.position ≤ b.size

/-- A search leaves the lines alone and the cursor in its range; it is at `miss` if nothing is
found, and only then. -/
structure Settles (b : Buffer) (miss : Int) (found : Bool) (after : Buffer) : Prop where
  lines : after.lines = b.lines
  inRange : after.InRange
  miss_iff : found = false ↔ after.position = miss

theorem onLine_inRange {b : Buffer} (h : b.OnLine) : b.InRange :=
  ⟨by have := h.1; omega, Int.le_of_lt h.2⟩

theorem toTop_inRange (b : Buffer) : b.toTop.InRange :=
  ⟨Int.negSucc_le_zero 0, Int.natCast_nonneg b.size⟩

theorem jump_position (offset : Int) (b : Buffer) :
    0 ≤ (b.jump offset).1.position ∧ (b.jump offset).1.position ≤ b.size := by
  simp only [jump]
  split_ifs <;> constructor <;> dsimp only <;> omega

theorem jump_inRange (offset : Int) (b : Buffer) : (b.jump offset).1.InRange := by
  have hPosition := jump_position offset b
  refine ⟨by omega, ?_⟩
  rw [size, jump_lines]
  exact hPosition.2

/-- One line down, as long as there is one. -/
theorem jump_on {b : Buffer} {index : Nat} (h : index < b.size) :
    (⟨b.lines, index⟩ : Buffer).jump 1 =
      if index + 1 < b.size then (⟨b.lines, (index + 1 : Nat)⟩, true)
      else (⟨b.lines, index⟩, false) := by
  have hSize : (⟨b.lines, index⟩ : Buffer).size = b.size := rfl
  by_cases hNext : index + 1 < b.size
  · simp only [jump, hSize]
    rw [if_neg (by omega), if_neg (by omega), if_pos hNext, Nat.cast_succ]
  · have hPlace : max ((b.size : Int) - 1) 0 = index := by omega
    simp only [jump, hSize, hPlace]
    rw [if_pos (by omega), if_neg hNext]

/-- A cursor that a search puts on a line tells of a hit, wherever a miss is told of. -/
theorem settles_at {b : Buffer} {miss : Int} (hMiss : miss < 0 ∨ (b.size : Int) ≤ miss)
    {index : Nat} (hIndex : index < b.size) : b.Settles miss true { b with position := index } := by
  refine ⟨rfl, onLine_inRange ⟨?_, ?_⟩, ?_⟩
  · exact Int.natCast_nonneg index
  · exact Int.ofNat_lt.mpr hIndex
  · simp only [Bool.true_eq_false, false_iff]
    omega

theorem settles_end (b : Buffer) : b.Settles b.size false { b with position := b.size } :=
  ⟨rfl, ⟨by dsimp only; omega, Int.le_refl _⟩, by simp⟩

theorem settles_front (b : Buffer) : b.Settles (-1) false { b with position := -1 } :=
  ⟨rfl, ⟨Int.le_refl _, by dsimp only; omega⟩, by simp⟩

theorem forward_settles (fits : Text → Bool) (b : Buffer) :
    b.Settles b.size (b.forward fits).2.isSome (b.forward fits).1 := by
  simp only [forward]
  split
  next k hFind =>
    obtain ⟨hk, -, -⟩ := List.findIdx?_eq_some_iff_getElem.mp hFind
    rw [List.length_drop] at hk
    have hIndex : b.position.toNat + k < b.size := by
      rw [size]
      omega
    exact settles_at (.inr (Int.le_refl _)) hIndex
  · exact settles_end b

theorem backward_settles (fits : Text → Bool) (b : Buffer) :
    b.Settles (-1) (b.backward fits).2.isSome (b.backward fits).1 := by
  simp only [backward]
  split
  next k hFind =>
    obtain ⟨hk, -, -⟩ := List.findIdx?_eq_some_iff_getElem.mp hFind
    rw [List.length_reverse, List.length_take] at hk
    refine settles_at (.inl (by decide)) ?_
    rw [size]
    omega
  · exact settles_front b

theorem seekShown_settles (shown : List Value) (texts : List Text) (b : Buffer) :
    b.Settles b.size (b.seekShown shown texts).answer.isSome (b.seekShown shown texts).buffer := by
  cases hFind : (b.lines.drop b.position.toNat).findIdx? fun line => havingAny texts line.view with
  | none =>
      rw [seekShown_miss shown hFind]
      exact settles_end b
  | some k =>
      obtain ⟨line, s, hLine, hFirst⟩ := exists_hit hFind
      rw [seekShown_hit shown hFind hLine hFirst]
      exact settles_at (.inr (Int.le_refl _)) (lt_length_of_getElem? hLine)

theorem seekCandidates_settles {candidates : List Value} {b : Buffer} {step : Step (Option Text)}
    (h : b.seekCandidates candidates = .ok step) :
    b.Settles b.size step.answer.isSome step.buffer := by
  rw [seekCandidates] at h
  split at h
  · cases h
    exact seekShown_settles _ _ b
  · split at h
    · split at h
      · cases h
        exact settles_end b
      · cases h
    · split at h
      · cases h
        exact seekShown_settles _ _ b
      · cases h

theorem leaveBlocks_settles (blocks : List String) {b : Buffer} (hFront : 0 ≤ b.position)
    (h : b.InRange) :
    b.Settles (-1) (b.leaveBlocks blocks).answer (b.leaveBlocks blocks).buffer := by
  induction blocks generalizing b with
  | nil =>
      refine ⟨rfl, h, ?_⟩
      simp only [leaveBlocks, Bool.true_eq_false, false_iff]
      omega
  | cons block blocks ih =>
      have hBrace := backward_settles (being closingBrace) b
      simp only [leaveBlocks, seekBackBeing, reported]
      generalize b.backward (being closingBrace) = brace at hBrace ⊢
      obtain ⟨after, _ | index⟩ := brace
      · exact hBrace
      · have hAbove := ih (jump_position (-1) after).1 (jump_inRange (-1) after)
        exact ⟨(hAbove.lines.trans (jump_lines _ _)).trans hBrace.lines, hAbove.inRange,
          hAbove.miss_iff⟩

theorem endAbove_settles (next : Step (Option Text)) :
    next.buffer.Settles (-1) (endAbove next).answer (endAbove next).buffer := by
  rw [endAbove]
  cases next.answer with
  | none =>
      have hLast := leaveBlocks_settles ["namespace", "type", "member"]
        (jump_position next.buffer.size next.buffer).1 (jump_inRange _ _)
      exact ⟨hLast.lines.trans (jump_lines _ _), hLast.inRange, hLast.miss_iff⟩
  | some s =>
      have hBrace := backward_settles (being closingBrace) next.buffer
      simp only [seekBackBeing, reported]
      generalize next.buffer.backward (being closingBrace) = brace at hBrace ⊢
      obtain ⟨after, _ | index⟩ := brace
      · exact hBrace
      · have hFront := (jump_position (-1) after).1
        refine ⟨(jump_lines _ _).trans hBrace.lines, jump_inRange _ _, ?_⟩
        simp only [Bool.true_eq_false, false_iff]
        omega

end Sightline.Buffer
