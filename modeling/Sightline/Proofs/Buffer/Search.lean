import Sightline.Proofs.Buffer.Cursor

/-! What a search finds, by the indices of the lines. A search forward stops at the first line
from the cursor on that fits, a search backward at the last one up to the cursor, and each
leaves the cursor past its end of the buffer if there is none. -/
namespace Sightline.Buffer

theorem findIdx?_of_first {lines : List Line} {p : Line → Bool} {k : Nat}
    (hHit : lines[k]?.any p = true) (hFirst : ∀ j < k, lines[j]?.any p = false) :
    lines.findIdx? p = some k := by
  obtain ⟨line, hLine, hp⟩ := (Option.any_eq_true _ _).mp hHit
  obtain ⟨hk, rfl⟩ := List.getElem?_eq_some_iff.mp hLine
  refine List.findIdx?_eq_some_iff_getElem.mpr ⟨hk, hp, fun j hj => ?_⟩
  have hNot := (Option.any_eq_false _ _).mp (hFirst j hj) _ (List.getElem?_eq_getElem (by omega))
  rw [hNot]
  exact Bool.false_ne_true

theorem findIdx?_of_none {lines : List Line} {p : Line → Bool}
    (h : ∀ j : Nat, lines[j]?.any p = false) : lines.findIdx? p = none := by
  refine List.findIdx?_eq_none_iff.mpr fun line hMem => ?_
  obtain ⟨j, hLine⟩ := List.mem_iff_getElem?.mp hMem
  exact (Option.any_eq_false _ _).mp (h j) line hLine

/-- There is a line at an index, and its view fits. -/
def fitsAt (b : Buffer) (fits : Text → Bool) (index : Nat) : Bool :=
  b.lines[index]?.any fun line => fits line.view

variable {b : Buffer} {fits : Text → Bool} {index : Nat}

theorem lt_size_of_fitsAt (h : b.fitsAt fits index = true) : index < b.size := by
  obtain ⟨_, hLine, -⟩ := (Option.any_eq_true _ _).mp h
  exact lt_length_of_getElem? hLine

theorem forward_of_first (hFront : b.position ≤ index) (hFits : b.fitsAt fits index = true)
    (hFirst : ∀ j : Nat, b.position ≤ j → j < index → b.fitsAt fits j = false) :
    b.forward fits = ({ b with position := index }, some index) := by
  obtain ⟨k, rfl⟩ := Nat.exists_eq_add_of_le (Int.toNat_le.mpr hFront)
  have hFind : (b.lines.drop b.position.toNat).findIdx? (fun line => fits line.view) = some k := by
    refine findIdx?_of_first ?_ fun j hj => ?_
    · rw [List.getElem?_drop]
      exact hFits
    · rw [List.getElem?_drop]
      exact hFirst _ (by omega) (by omega)
  simp only [forward, hFind, Nat.cast_add]

theorem forward_of_none (fits : Text → Bool)
    (h : ∀ j : Nat, b.position ≤ j → b.fitsAt fits j = false) :
    b.forward fits = ({ b with position := b.size }, none) := by
  have hFind : (b.lines.drop b.position.toNat).findIdx? (fun line => fits line.view) = none := by
    refine findIdx?_of_none fun j => ?_
    rw [List.getElem?_drop]
    exact h _ (by omega)
  simp only [forward, hFind]

theorem backward_of_last (hReach : index ≤ b.position) (hFits : b.fitsAt fits index = true)
    (hLast : ∀ j : Nat, index < j → j ≤ b.position → b.fitsAt fits j = false) :
    b.backward fits = ({ b with position := index }, some index) := by
  have hSize := lt_size_of_fitsAt hFits
  have hCount := length_above b
  have hFind : b.above.findIdx? (fun line => fits line.view) =
      some (b.above.length - 1 - index) := by
    refine findIdx?_of_first ?_ fun j hj => ?_
    · rw [getElem?_above b (by omega), show b.above.length - 1 - (b.above.length - 1 - index) =
        index by omega]
      exact hFits
    · rw [getElem?_above b (by omega)]
      exact hLast _ (by omega) (by omega)
  have hIndex : (min (b.position + 1) b.size).toNat - 1 - (b.above.length - 1 - index) = index := by
    omega
  rw [above] at hFind hIndex
  simp only [backward, hFind, hIndex]

theorem backward_of_none (fits : Text → Bool)
    (h : ∀ j : Nat, j ≤ b.position → b.fitsAt fits j = false) :
    b.backward fits = ({ b with position := -1 }, none) := by
  have hCount := length_above b
  have hFind : b.above.findIdx? (fun line => fits line.view) = none := by
    refine findIdx?_of_none fun j => ?_
    by_cases hj : j < b.above.length
    · rw [getElem?_above b hj]
      exact h _ (by omega)
    · rw [List.getElem?_eq_none (by omega)]
      rfl
  rw [above] at hFind
  simp only [backward, hFind]

end Sightline.Buffer
