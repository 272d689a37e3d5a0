import Sightline.Proofs.Mask.Stretch

/-! What a line leaves to the lines below it. A literal and a line comment end with their
line, however it is cut off. All that can be left is an open block comment, and a line with
nothing on it but the mark that opens one leaves the same. -/
namespace Sightline.Mask

namespace Place
variable {ds : DelimiterSet} {place : Place}

/-- Where the mark of block comments is not hidden, no step leads into one. -/
theorem isOpen_step (hBlock : ds.blockComment = false) (hPlace : place.isOpen = false) (c : Char)
    (next : Option Char) : (place.step ds c next).2.isOpen = false := by
  cases place with
  | code =>
      simp only [step, hBlock]
      split_ifs <;> simp_all [isOpen]
  | literal mark =>
      simp only [step]
      split_ifs <;> rfl
  | opener => cases hPlace
  | block => cases hPlace
  | remark | closer | escape => rfl

end Place

section Carry
variable {ds : DelimiterSet}

theorem lexical_eq_walkLines (ds : DelimiterSet) (lines : List Text) :
    lexical ds lines = walkLines ds false lines := scanLines_eq_walkLines ds false lines

theorem openAfter_append (ds : DelimiterSet) (inBlock : Bool) (lines lines' : List Text) :
    openAfter ds inBlock (lines ++ lines') = openAfter ds (openAfter ds inBlock lines) lines' := by
  induction lines generalizing inBlock with
  | nil => rfl
  | cons line lines ih => exact ih _

theorem walk_not_open (hBlock : ds.blockComment = false) {place : Place}
    (hPlace : place.isOpen = false) (s : Text) : (walk ds place s).2 = false := by
  induction s generalizing place with
  | nil => exact hPlace
  | cons c s ih =>
      rw [walk_cons]
      exact ih (Place.isOpen_step hBlock hPlace c s.head?)

theorem openAfter_eq_false (hBlock : ds.blockComment = false) (lines : List Text) :
    openAfter ds false lines = false := by
  induction lines with
  | nil => rfl
  | cons line lines ih =>
      have hLine : (walk ds (.atStart false) line).2 = false := walk_not_open hBlock rfl line
      rw [openAfter, hLine, ih]

/-- A line that is nothing but the mark of block comments leaves one open. -/
theorem walk_mark (hBlock : ds.blockComment = true) :
    walk ds .code Delimiter.blockComment.token = (blanked Delimiter.blockComment.token, true) := by
  simp [walk, Place.step, Delimiter.token, hBlock, Place.isOpen]

/-- Lines below an open block comment have the views they have below that mark. -/
theorem walkLines_open (hBlock : ds.blockComment = true) (lines : List Text) :
    walkLines ds true lines =
      (walkLines ds false (Delimiter.blockComment.token :: lines)).tail := by
  rw [walkLines, show Place.atStart false = .code from rfl, walk_mark hBlock, List.tail_cons]

/-- The views of lines below others are their own, or those they have below the mark of block
comments. -/
theorem walkLines_below (ds : DelimiterSet) (above lines : List Text) :
    walkLines ds (openAfter ds false above) lines =
      if openAfter ds false above then
        (lexical ds (Delimiter.blockComment.token :: lines)).tail
      else lexical ds lines := by
  rw [lexical_eq_walkLines, lexical_eq_walkLines]
  cases hOpen : openAfter ds false above with
  | false => rfl
  | true =>
      have hBlock : ds.blockComment = true := by
        by_contra hNot
        rw [openAfter_eq_false (Bool.eq_false_iff.mpr hNot)] at hOpen
        cases hOpen
      exact walkLines_open hBlock lines

theorem lexical_append (ds : DelimiterSet) (above lines : List Text) :
    lexical ds (above ++ lines) =
      lexical ds above ++ walkLines ds (openAfter ds false above) lines := by
  rw [lexical_eq_walkLines, lexical_eq_walkLines, walkLines_append]

theorem length_lexical (ds : DelimiterSet) (lines : List Text) :
    (lexical ds lines).length = lines.length := by
  rw [lexical_eq_walkLines, length_walkLines]

/-- A line has its view between the views of those above and those of the lines below. -/
theorem lexical_split (ds : DelimiterSet) (above : List Text) (line : Text) (below : List Text) :
    ∃ view, lexical ds (above ++ line :: below) = lexical ds above ++
      view :: walkLines ds (openAfter ds false (above ++ [line])) below := by
  refine ⟨(walk ds (.atStart (openAfter ds false above)) line).1, ?_⟩
  rw [lexical_append, walkLines, openAfter_append]
  rfl

end Carry

/-- The views of lines below others depend on these by one thing only, whether they leave a block
comment open; and if they do, the views are those below a line with nothing but its mark. So what
comes below has no part in a view, a line that is changed changes no other view as long as it leaves
the same open, and lines are hidden one by one where the mark of block comments is not hidden. -/
theorem block_comment_alone_crosses_lines (ds : DelimiterSet) :
    (∀ above below : List Text, (Masker.ofDelimiters ds).mask (above ++ below) = .ok
      (lexical ds above ++
        if openAfter ds false above then
          (lexical ds (Delimiter.blockComment.token :: below)).tail
        else lexical ds below)) ∧
    (∀ above below : List Text,
      (lexical ds (above ++ below)).take above.length = lexical ds above) ∧
    (∀ (above : List Text) (line line' : Text) (below : List Text),
      openAfter ds false (above ++ [line]) = openAfter ds false (above ++ [line']) →
      ∀ k ≠ above.length, (lexical ds (above ++ line :: below))[k]? =
        (lexical ds (above ++ line' :: below))[k]?) ∧
    (ds.blockComment = false →
      ∀ lines, lexical ds lines = lines.flatMap fun line => lexical ds [line]) := by
  refine ⟨?below, ?above, ?changed, ?each⟩
  case below =>
    intro above below
    rw [← walkLines_below, ← lexical_append]
    rfl
  case above =>
    intro above below
    rw [lexical_append, ← length_lexical ds above, List.take_left]
  case changed =>
    intro above line line' below hOpen k hk
    obtain ⟨view, hView⟩ := lexical_split ds above line below
    obtain ⟨view', hView'⟩ := lexical_split ds above line' below
    rw [hView, hView', hOpen]
    rw [← length_lexical ds above] at hk
    rcases Nat.lt_or_gt_of_ne hk with hAbove | hBelow
    · rw [List.getElem?_append_left hAbove, List.getElem?_append_left hAbove]
    · obtain ⟨j, rfl⟩ := Nat.exists_eq_add_of_lt hBelow
      rw [Nat.add_assoc, List.getElem?_append_right (Nat.le_add_right _ _),
        List.getElem?_append_right (Nat.le_add_right _ _), Nat.add_sub_cancel_left,
        List.getElem?_cons_succ, List.getElem?_cons_succ]
  case each =>
    intro hBlock lines
    induction lines with
    | nil => rfl
    | cons line lines ih =>
        have hOpen : openAfter ds false [line] = false := openAfter_eq_false hBlock [line]
        rw [List.flatMap_cons, ← ih, ← List.singleton_append, lexical_append, hOpen,
          ← lexical_eq_walkLines]

/-- Two openings of a comment make no difference to the line that it ends on; with line comments
alone to hide, no line makes any to another. -/
theorem reworded_opening_same_below :
    openAfter .standard false (["a".toList] ++ ["b /* c".toList]) =
        openAfter .standard false (["a".toList] ++ ["/*/".toList]) ∧
      (lexical .standard (["a".toList] ++ "b /* c".toList :: ["d */ e".toList]))[2]? =
        (lexical .standard (["a".toList] ++ "/*/".toList :: ["d */ e".toList]))[2]? ∧
      (lexical .standard (["a".toList] ++ "b /* c".toList :: ["d */ e".toList]))[2]? =
        some "     e".toList ∧
      lexical (.ofList [.lineComment]) ["/*".toList, "f // g".toList] =
        lexical (.ofList [.lineComment]) ["/*".toList] ++
          lexical (.ofList [.lineComment]) ["f // g".toList] := by
  have hOpen : openAfter .standard false (["a".toList] ++ ["b /* c".toList]) =
      openAfter .standard false (["a".toList] ++ ["/*/".toList]) := by decide
  refine ⟨hOpen, ?_, ?_, ?_⟩
  · exact (block_comment_alone_crosses_lines .standard).2.2.1 _ _ _ _ hOpen 2 (by decide)
  · rw [lexical_eq_walkLines]
    decide
  · exact (block_comment_alone_crosses_lines (.ofList [.lineComment])).2.2.2 rfl _

end Sightline.Mask
