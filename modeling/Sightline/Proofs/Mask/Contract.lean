import Mathlib.Data.List.Forall2
import Sightline.Mask.Masker

/-! The contract between lines and their search view. A view fits its lines when
it has as many of them, each of the same length; it veils a line when nothing is
done to a character but to hide it. The check of a masker's output refuses
exactly what does not fit. -/
namespace Sightline.Mask

/-- As many views as lines, each of the length of its line. -/
def Fits (lines views : List Text) : Prop :=
  List.Forall₂ (fun line view => view.length = line.length) lines views

/-- As many characters as in the line, each of them kept or hidden. -/
def Veils (line view : Text) : Prop :=
  List.Forall₂ (fun c seen => seen = c ∨ seen = filler) line view

theorem lengthFault?_eq_none_iff (index : Nat) {lines views : List Text}
    (h : lines.length = views.length) :
    lengthFault? index lines views = none ↔ Fits lines views := by
  induction lines generalizing index views with
  | nil =>
      cases views with
      | nil => exact ⟨fun _ => .nil, fun _ => rfl⟩
      | cons view views => cases h
  | cons line lines ih =>
      cases views with
      | nil => cases h
      | cons view views =>
          rw [lengthFault?, Fits, List.forall₂_cons]
          by_cases hLength : line.length = view.length
          · rw [if_pos hLength, ih (index + 1) (Nat.succ.inj h)]
            simp [hLength, Fits]
          · simp [if_neg hLength, Ne.symm hLength]

/-- The check of a view finds no fault exactly in views that fit. -/
theorem alignmentFault?_eq_none_iff (lines views : List Text) :
    alignmentFault? lines views = none ↔ Fits lines views := by
  rw [alignmentFault?]
  by_cases hCount : lines.length = views.length
  · rw [if_pos hCount, lengthFault?_eq_none_iff 0 hCount]
  · rw [if_neg hCount]
    exact ⟨nofun, fun h => absurd (List.Forall₂.length_eq h) hCount⟩

end Sightline.Mask
