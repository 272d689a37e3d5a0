import Mathlib.Data.List.Basic
import Sightline.Text.Basic

/-! Pieces of a text. Cutting a text at a separator and putting pieces together with one
between neighbours undo each other, as long as no piece holds the separator; one that does
comes apart into more. -/
namespace Sightline.Text
variable {separator : Char}

theorem splitOn_eq (separator : Char) (s : Text) :
    splitOn separator s = List.splitOn separator s := by
  induction s with
  | nil => rfl
  | cons c s ih =>
      rw [splitOn, ih, List.splitOn_cons_eq_if_modifyHead]
      by_cases hc : c = separator
      · simp [hc]
      · obtain ⟨piece, pieces, hPieces⟩ :=
          List.exists_cons_of_ne_nil (List.splitOn_ne_nil separator s)
        simp [hc, hPieces]

theorem join_eq (between : Text) (pieces : List Text) :
    join between pieces = between.intercalate pieces := by
  fun_induction join between pieces with
  | case1 => rfl
  | case2 => simp [List.intercalate]
  | case3 s t pieces ih => rw [ih, List.intercalate_cons_cons]

/-- Put together, the pieces of a text are the text again. -/
theorem join_splitOn (separator : Char) (s : Text) :
    join [separator] (splitOn separator s) = s := by
  rw [join_eq, splitOn_eq, List.intercalate_splitOn]

/-- Pieces without the separator are found again between those put between them. -/
theorem splitOn_join {pieces : List Text} (hPieces : pieces ≠ [])
    (hFree : ∀ piece ∈ pieces, separator ∉ piece) :
    splitOn separator (join [separator] pieces) = pieces := by
  rw [splitOn_eq, join_eq, List.splitOn_intercalate separator hFree hPieces]

/-- Cutting comes through the joints: every piece is cut on its own. -/
theorem splitOn_join_eq_flatMap {pieces : List Text} (hPieces : pieces ≠ []) :
    splitOn separator (join [separator] pieces) = pieces.flatMap (splitOn separator) := by
  fun_induction join [separator] pieces with
  | case1 => exact absurd rfl hPieces
  | case2 s => rw [List.flatMap_singleton]
  | case3 s t pieces ih =>
      rw [splitOn_eq, List.append_assoc, List.singleton_append, List.splitOn_append_cons_self,
        ← splitOn_eq, ← splitOn_eq, ih (List.cons_ne_nil t pieces), ← List.flatMap_cons]

theorem length_splitOn_pos (separator : Char) (s : Text) : 0 < (splitOn separator s).length :=
  List.length_pos_of_ne_nil (splitOn_ne_nil separator s)

/-- A piece that holds the separator is more than one. -/
theorem one_lt_length_splitOn {s : Text} (h : separator ∈ s) :
    1 < (splitOn separator s).length := by
  obtain ⟨front, back, rfl⟩ := List.append_of_mem h
  rw [splitOn_eq, List.splitOn_append_cons_self, List.length_append, ← splitOn_eq, ← splitOn_eq]
  have hFront := length_splitOn_pos separator front
  have hBack := length_splitOn_pos separator back
  omega

theorem length_le_length_flatMap_splitOn (separator : Char) (pieces : List Text) :
    pieces.length ≤ (pieces.flatMap (splitOn separator)).length := by
  induction pieces with
  | nil => exact Nat.le_refl _
  | cons piece pieces ih =>
      have hPiece := length_splitOn_pos separator piece
      rw [List.flatMap_cons, List.length_append, List.length_cons]
      omega

/-- Pieces are more than were put together, if one of them holds the separator. -/
theorem length_lt_length_splitOn_join {pieces : List Text}
    (hPiece : ∃ piece ∈ pieces, separator ∈ piece) :
    pieces.length < (splitOn separator (join [separator] pieces)).length := by
  obtain ⟨piece, hMem, hSeparator⟩ := hPiece
  obtain ⟨front, back, rfl⟩ := List.append_of_mem hMem
  rw [splitOn_join_eq_flatMap (List.ne_nil_of_mem hMem), List.flatMap_append, List.flatMap_cons]
  simp only [List.length_append, List.length_cons]
  have hFront := length_le_length_flatMap_splitOn separator front
  have hBack := length_le_length_flatMap_splitOn separator back
  have hHere := one_lt_length_splitOn hSeparator
  omega

end Sightline.Text
