import Mathlib.Order.Bounds.Basic
import Sightline.Proofs.Buffer.Search

/-! Searches by their bounds. A search forward ends at the least index of a wanted line from the
cursor on, a search backward at the greatest up to the cursor. Each is the other one in the buffer
upside down, the places for misses included, so that what is shown of one is shown of both. -/
namespace Sightline.Buffer

/-- The line at an index is there, and its view is wanted. -/
def WantedAt (b : Buffer) (wanted : Text → Prop) (index : Nat) : Prop :=
  ∃ line, b.lines[index]? = some line ∧ wanted line.view

/-- The indices of the wanted lines from the cursor on, or from the first line. -/
def ahead (b : Buffer) (wanted : Text → Prop) : Set Nat :=
  {index | max b.position 0 ≤ index ∧ index < b.size ∧ b.WantedAt wanted index}

/-- The indices of the wanted lines up to the cursor, or up to the last line. -/
def behind (b : Buffer) (wanted : Text → Prop) : Set Nat :=
  {index | index ≤ min b.position (b.size - 1) ∧ b.WantedAt wanted index}

/-- The least of some indices, if there is any. -/
def LeastOf (indices : Set Nat) : Option Nat → Prop
  | some index => IsLeast indices index
  | none => indices = ∅

/-- The greatest of some indices, if there is any. -/
def GreatestOf (indices : Set Nat) : Option Nat → Prop
  | some index => IsGreatest indices index
  | none => indices = ∅

/-- The buffer upside down, with the cursor on the line it was on. -/
def mirrored (b : Buffer) : Buffer := ⟨b.lines.reverse, b.size - 1 - b.position⟩

variable {b : Buffer} {fits : Text → Bool} {wanted : Text → Prop} {index : Nat}

theorem WantedAt.lt_size (h : b.WantedAt wanted index) : index < b.size := by
  obtain ⟨_, hLine, -⟩ := h
  exact lt_length_of_getElem? hLine

theorem fitsAt_iff (hFits : ∀ view, fits view = true ↔ wanted view) (b : Buffer) (index : Nat) :
    b.fitsAt fits index = true ↔ b.WantedAt wanted index := by
  simp only [fitsAt, Option.any_eq_true, hFits, WantedAt]

theorem mem_ahead_iff : index ∈ b.ahead wanted ↔ b.position ≤ index ∧ b.WantedAt wanted index := by
  constructor
  · rintro ⟨hFront, -, hWanted⟩
    exact ⟨by omega, hWanted⟩
  · rintro ⟨hFront, hWanted⟩
    exact ⟨by omega, hWanted.lt_size, hWanted⟩

/-- Ahead of the next line there is what is ahead of this one and behind it. -/
theorem ahead_succ (hFront : b.position ≤ index) :
    ahead ⟨b.lines, (index + 1 : Nat)⟩ wanted = {j ∈ b.ahead wanted | index < j} := by
  ext j
  rw [Set.mem_ofPred_eq, mem_ahead_iff, mem_ahead_iff]
  constructor
  · rintro ⟨hBehind, hWanted⟩
    dsimp only at hBehind
    exact ⟨⟨by omega, hWanted⟩, by omega⟩
  · rintro ⟨⟨-, hWanted⟩, hBehind⟩
    refine ⟨?_, hWanted⟩
    dsimp only
    omega

/-- There is a least one among some indices, if there are any. -/
theorem exists_leastOf (indices : Set Nat) : ∃ found, LeastOf indices found := by
  classical
  rcases indices.eq_empty_or_nonempty with hNone | hSome
  · exact ⟨none, hNone⟩
  · exact ⟨some (Nat.find hSome), Nat.find_spec hSome, fun _ h => Nat.find_min' hSome h⟩

/-- A search forward finds the least index ahead and moves there; with none it leaves the cursor
behind the last line. -/
theorem forward_leastOf (hFits : ∀ view, fits view = true ↔ wanted view) (b : Buffer) :
    ∃ found : Option Nat, LeastOf (b.ahead wanted) found ∧
      b.forward fits = ({ b with position := found.elim b.size Nat.cast }, found) := by
  have hMember {j : Nat} (hFront : b.position ≤ j) (hNot : j ∉ b.ahead wanted) :
      b.fitsAt fits j = false := by
    rw [← Bool.not_eq_true, fitsAt_iff hFits]
    exact fun hWanted => hNot (mem_ahead_iff.mpr ⟨hFront, hWanted⟩)
  obtain ⟨found, hFound⟩ := exists_leastOf (b.ahead wanted)
  refine ⟨found, hFound, ?_⟩
  cases found with
  | none =>
      exact forward_of_none fits fun j hFront =>
        hMember hFront (hFound ▸ Set.notMem_empty j)
  | some index =>
      obtain ⟨hFront, hWanted⟩ := mem_ahead_iff.mp hFound.1
      exact forward_of_first hFront ((fitsAt_iff hFits b index).mpr hWanted) fun j hj hBefore =>
        hMember hj fun hMem => Nat.not_lt.mpr (hFound.2 hMem) hBefore

theorem lines_mirrored (b : Buffer) : b.mirrored.lines = b.lines.reverse := rfl

theorem mirrored_mk (b : Buffer) (position : Int) :
    mirrored ⟨b.lines.reverse, position⟩ = ⟨b.lines, b.size - 1 - position⟩ := by
  simp [mirrored, size]

theorem mirrored_mirrored (b : Buffer) : b.mirrored.mirrored = b := by
  have hBack : (b.size : Int) - 1 - (b.size - 1 - b.position) = b.position := by omega
  exact (mirrored_mk b _).trans (by rw [hBack])

theorem size_mirrored (b : Buffer) : b.mirrored.size = b.size := List.length_reverse

/-- A search backward is a search forward in the buffer upside down. -/
theorem backward_eq_mirrored (fits : Text → Bool) (b : Buffer) : b.backward fits =
    ((b.mirrored.forward fits).1.mirrored,
      (b.mirrored.forward fits).2.map (b.size - 1 - ·)) := by
  have hPosition : b.mirrored.position = b.size - 1 - b.position := rfl
  have hLength : b.lines.length = b.size := rfl
  have hAbove : (b.lines.take (min (b.position + 1) b.size).toNat).reverse =
      b.lines.reverse.drop b.mirrored.position.toNat := by
    rw [List.reverse_take]
    by_cases hFront : -1 ≤ b.position
    · congr 1
      omega
    · rw [List.drop_of_length_le (by rw [List.length_reverse]; omega),
        List.drop_of_length_le (by rw [List.length_reverse]; omega)]
  simp only [backward, forward, hAbove, lines_mirrored]
  cases hFind : (b.lines.reverse.drop b.mirrored.position.toNat).findIdx? fun line =>
      fits line.view with
  | none =>
      have hFront : (b.size : Int) - 1 - b.size = -1 := by omega
      simp only [Option.map_none, mirrored_mk, size_mirrored, hFront]
  | some k =>
      have hk := (List.findIdx?_eq_some_iff_getElem.mp hFind).1
      rw [List.length_drop, List.length_reverse] at hk
      have hSame : (min (b.position + 1) b.size).toNat - 1 - k =
          b.size - 1 - (b.mirrored.position.toNat + k) := by
        omega
      have hPlace : ((b.size - 1 - (b.mirrored.position.toNat + k) : Nat) : Int) =
          b.size - 1 - (b.mirrored.position.toNat + k) := by
        omega
      simp only [Option.map_some, hSame, mirrored_mk, hPlace]

/-- One line up is one line down in the buffer upside down. -/
theorem jump_mirrored (h : 0 < b.size) :
    b.mirrored.jump (-1) = ((b.jump 1).1.mirrored, (b.jump 1).2) := by
  have hPosition : b.mirrored.position = b.size - 1 - b.position := rfl
  have hSize (position : Int) : (⟨b.lines, position⟩ : Buffer).size = b.size := rfl
  simp only [jump, size_mirrored, hPosition, lines_mirrored]
  split_ifs <;> simp only [mirrored, hSize, Prod.mk.injEq, Buffer.mk.injEq, true_and, and_true] <;>
    omega

theorem mem_behind_iff : index ∈ b.behind wanted ↔
    index < b.size ∧ b.size - 1 - index ∈ b.mirrored.ahead wanted := by
  have hWanted (hIndex : index < b.size) :
      b.mirrored.WantedAt wanted (b.size - 1 - index) ↔ b.WantedAt wanted index := by
    have hLength : b.lines.length = b.size := rfl
    have hTurned : b.lines.length - 1 - (b.size - 1 - index) = index := by omega
    rw [WantedAt, WantedAt, mirrored, List.getElem?_reverse (by omega), hTurned]
  have hPosition : b.mirrored.position = b.size - 1 - b.position := rfl
  constructor
  · rintro ⟨hReach, h⟩
    have hIndex := h.lt_size
    exact ⟨hIndex, mem_ahead_iff.mpr ⟨by omega, (hWanted hIndex).mpr h⟩⟩
  · rintro ⟨hIndex, hMem⟩
    obtain ⟨hFront, h⟩ := mem_ahead_iff.mp hMem
    exact ⟨by omega, (hWanted hIndex).mp h⟩

/-- The least index ahead in the mirror is the greatest behind. -/
theorem greatestOf_behind {found : Option Nat} (h : LeastOf (b.mirrored.ahead wanted) found) :
    GreatestOf (b.behind wanted) (found.map (b.size - 1 - ·)) := by
  cases found with
  | none =>
      refine Set.eq_empty_of_forall_notMem fun index hMem => ?_
      exact (h ▸ Set.notMem_empty _) (mem_behind_iff.mp hMem).2
  | some index =>
      obtain ⟨hMem, hLeast⟩ := h
      have hIndex : index < b.size := by
        rw [← size_mirrored]
        exact hMem.2.1
      have hBack : b.size - 1 - (b.size - 1 - index) = index := by omega
      have hInside : b.size - 1 - index < b.size := by omega
      refine ⟨mem_behind_iff.mpr ⟨hInside, hBack.symm ▸ hMem⟩, fun j hj => ?_⟩
      obtain ⟨hLt, hTurned⟩ := mem_behind_iff.mp hj
      have hLe : index ≤ b.size - 1 - j := hLeast hTurned
      change j ≤ b.size - 1 - index
      omega

/-- A search backward finds the greatest index behind and moves there; with none it leaves the
cursor in front of the first line. -/
theorem backward_greatestOf (hFits : ∀ view, fits view = true ↔ wanted view) (b : Buffer) :
    ∃ found : Option Nat, GreatestOf (b.behind wanted) found ∧
      b.backward fits = ({ b with position := found.elim (-1) Nat.cast }, found) := by
  obtain ⟨found, hFound, hForward⟩ := forward_leastOf hFits b.mirrored
  refine ⟨found.map (b.size - 1 - ·), greatestOf_behind hFound, ?_⟩
  rw [backward_eq_mirrored, hForward]
  cases found with
  | none =>
      have hFront : (b.size : Int) - 1 - b.size = -1 := by omega
      simp only [Option.elim, Option.map_none, lines_mirrored, mirrored_mk, size_mirrored, hFront]
  | some index =>
      have hIndex : index < b.size := by
        rw [← size_mirrored]
        exact hFound.1.2.1
      have hPlace : ((b.size - 1 - index : Nat) : Int) = b.size - 1 - index := by omega
      simp only [Option.elim, Option.map_some, lines_mirrored, mirrored_mk, hPlace]

end Sightline.Buffer
