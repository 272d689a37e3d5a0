import Sightline.Proofs.Line.Columns

/-! Replacement as a change of plain pieces. The offsets of a text in a line are
the places of pieces that hide nothing and are that text; replacing it puts other
plain pieces there and keeps every column between them. -/
namespace Sightline.Line

/-- One line comes from another by plain pieces `new` in place of plain pieces
`old`, which start at some offsets, counted from column `start` on. -/
inductive Rewrites (old new : Text) : (start : Nat) → List Nat → Line → Line → Prop where
  | last (start : Nat) (l : Line) : Rewrites old new start [] l l
  | piece {start : Nat} {offsets : List Nat} {gap l r : Line} (hGap : gap.Aligned)
      (tail : Rewrites old new (start + gap.text.length + old.length) offsets l r) :
      Rewrites old new start ((start + gap.text.length) :: offsets)
        (gap ++ plain old ++ l) (gap ++ plain new ++ r)

/-- A pattern that stands at an offset cuts the text in three. -/
theorem take_append_pattern {pattern s : Text} {k : Nat} (h : pattern <+: s.drop k) :
    s.take k ++ pattern ++ s.drop (k + pattern.length) = s := by
  rw [← List.drop_drop, List.append_assoc, List.prefix_iff_eq_append.mp h,
    List.take_append_drop]

theorem length_take_of_drop_ne_nil {s : Text} {n : Nat} (h : s.drop n ≠ []) :
    (s.take n).length = n := by
  have hLt : n < s.length := by simpa using h
  exact List.length_take_of_le (Nat.le_of_lt hLt)

theorem drop_ne_nil_of_pattern {pattern s : Text} {k : Nat} (hPattern : pattern ≠ [])
    (h : pattern <+: s.drop k) : s.drop k ≠ [] :=
  fun hNil => hPattern (List.prefix_nil.mp (hNil ▸ h))

namespace Rewrites
variable {old new : Text} {start : Nat} {offsets : List Nat} {l r : Line}

/-- Columns without an offset in them may stand in front. -/
theorem skip (hOld : old ≠ []) (n : Nat)
    (h : Rewrites old new (start + n) offsets (l.drop n) r) :
    Rewrites old new start offsets l (l.take n ++ r) := by
  generalize hTail : l.drop n = tail at h
  cases h with
  | last =>
      subst hTail
      rw [take_append_drop]
      exact .last start l
  | @piece _ _ gap tail r hGap hRest =>
      have hText : (l.take n).text.length = n := by
        have hDrop : l.text.drop n = gap.text ++ old ++ tail.text := congrArg Line.text hTail
        exact length_take_of_drop_ne_nil (by simp [hDrop, hOld])
      have hView : (l.take n).view.length = n := by
        have hDrop : l.view.drop n = gap.view ++ old ++ tail.view := congrArg Line.view hTail
        exact length_take_of_drop_ne_nil (by simp [hDrop, hOld])
      have hFront : (l.take n ++ gap).Aligned := Aligned.append (hView.trans hText.symm) hGap
      have hWidth : start + n + gap.text.length = start + (l.take n ++ gap).text.length := by
        rw [text_append, List.length_append, hText, Nat.add_assoc]
      have hLine : l = l.take n ++ gap ++ plain old ++ tail := by
        conv_lhs => rw [← take_append_drop n l, hTail]
        simp only [append_assoc]
      rw [hWidth] at hRest ⊢
      have hWhole := Rewrites.piece hFront hRest
      rw [← hLine] at hWhole
      simpa only [append_assoc] using hWhole

/-- The rewritten line is the one with `new` substituted at the offsets. -/
theorem eq_substituteFrom (h : Rewrites old new start offsets l r) :
    r = ⟨Text.substituteFrom old.length new start offsets l.text,
      Text.substituteFrom old.length new start offsets l.view⟩ := by
  induction h with
  | last => rfl
  | @piece start offsets gap l r hGap tail ih =>
      have hSide (front rest : Text) (h : front.length = gap.text.length) :
          Text.substituteFrom old.length new start ((start + gap.text.length) :: offsets)
              (front ++ old ++ rest) =
            front ++ new ++
              Text.substituteFrom old.length new (start + gap.text.length + old.length) offsets
                rest := by
        rw [Text.substituteFrom, Nat.add_sub_cancel_left, ← h, ← List.length_append,
          List.drop_left, List.append_assoc front, List.take_left]
      simp only [plain, text_append, view_append, hSide _ _ rfl, hSide _ _ hGap]
      exact congrArg (gap ++ plain new ++ ·) ih

theorem aligned (h : Rewrites old new start offsets l r) (hl : l.Aligned) : r.Aligned := by
  induction h with
  | last => exact hl
  | piece hGap tail ih =>
      have hFront := hGap.append (aligned_plain old)
      exact (hGap.append (aligned_plain new)).append (ih (hFront.of_append hl))

theorem hidden_eq (h : Rewrites old new start offsets l r) : r.hidden = l.hidden := by
  induction h with
  | last => rfl
  | piece hGap tail ih =>
      rw [hidden_insert hGap, hidden_insert hGap, hidden_append hGap, hidden_append hGap, ih]

/-- At every offset there is a piece that hides nothing, with aligned columns in front. -/
theorem exists_piece (h : Rewrites old new start offsets l r) {offset : Nat}
    (hMem : offset ∈ offsets) : ∃ front back : Line, front.Aligned ∧
      l = front ++ (plain old ++ back) ∧ offset = start + front.text.length := by
  induction h with
  | last => cases hMem
  | @piece start offsets gap l r hGap tail ih =>
      rcases List.mem_cons.mp hMem with rfl | hMem
      · exact ⟨gap, l, hGap, append_assoc .., rfl⟩
      · obtain ⟨front, back, hFront, rfl, rfl⟩ := ih hMem
        refine ⟨gap ++ plain old ++ front, back, (hGap.append (aligned_plain old)).append hFront,
          (append_assoc (gap ++ plain old) front _).symm, ?_⟩
        simp only [text_append, List.length_append, plain]
        omega

theorem length_text (h : Rewrites old new start offsets l r) :
    r.text.length + offsets.length * old.length = l.text.length + offsets.length * new.length := by
  induction h with
  | last => simp
  | piece hGap tail ih =>
      simp only [text_append, plain, List.length_append, List.length_cons, Nat.add_one_mul]
      omega

theorem eq_of_same (h : Rewrites old old start offsets l r) : r = l := by
  induction h with
  | last => rfl
  | piece hGap tail ih => rw [ih]

/-- A line that is rewritten somewhere stays as it is only if the pieces are the same. -/
theorem eq_self_iff (h : Rewrites old new start offsets l r) (hOffsets : offsets ≠ []) :
    r = l ↔ old = new := by
  refine ⟨fun hSame => ?_, fun hSame => ?_⟩
  · have hLength := h.length_text
    rw [hSame, Nat.add_left_cancel_iff] at hLength
    have hWidth : old.length = new.length :=
      Nat.eq_of_mul_eq_mul_left (List.length_pos_iff.mpr hOffsets) hLength
    cases h with
    | last => exact absurd rfl hOffsets
    | piece hGap tail =>
        have hText := congrArg Line.text hSame
        simp only [text_append, plain, List.append_assoc, List.append_cancel_left_eq] at hText
        exact (List.append_inj hText hWidth.symm).1.symm
  · subst hSame
    exact h.eq_of_same

end Rewrites

/-- The offsets of a text in the rest of a line are those of a rewriting. -/
theorem exists_rewrites (c : Char) (old new text view : Text) (offset : Nat) :
    ∃ r, Rewrites (c :: old) new offset (occurrencesFrom c old text view offset)
      ⟨text, view⟩ r := by
  fun_induction occurrencesFrom c old text view offset with
  | case1 text view offset hFind => exact ⟨_, .last offset _⟩
  | case2 text view offset k hFind hBound hHere ih =>
      obtain ⟨r, hr⟩ := ih
      have hText := List.isPrefixOf_iff_prefix.mp hHere
      have hView := List.isPrefixOf_iff_prefix.mp (Text.isPrefixOf_drop_of_find? hFind)
      have hTake (s : Text) (h : c :: old <+: s.drop k) : (s.take k).length = k :=
        length_take_of_drop_ne_nil (drop_ne_nil_of_pattern (List.cons_ne_nil c old) h)
      have hGap : Aligned ⟨text.take k, view.take k⟩ :=
        (hTake view hView).trans (hTake text hText).symm
      have hLine : (⟨text, view⟩ : Line) = ⟨text.take k, view.take k⟩ ++ plain (c :: old) ++
          ⟨text.drop (k + old.length + 1), view.drop (k + old.length + 1)⟩ :=
        congrArg₂ Line.mk (take_append_pattern hText).symm (take_append_pattern hView).symm
      rw [show offset + k + old.length + 1 = offset + (text.take k).length + (c :: old).length by
        rw [hTake text hText, List.length_cons, Nat.add_assoc (offset + k)]] at hr ⊢
      rw [hLine, show offset + k = offset + (text.take k).length by rw [hTake text hText]]
      exact ⟨_, .piece hGap hr⟩
  | case3 text view offset k hFind hBound hHere ih =>
      obtain ⟨r, hr⟩ := ih
      exact ⟨_, Rewrites.skip (List.cons_ne_nil c old) (k + 1) hr⟩

/-- Replacing a text rewrites the line at its occurrences. -/
theorem rewrites_replace (l : Line) (old new : Text) :
    Rewrites old new 0 (l.occurrences old) l (l.replace old new) := by
  cases old with
  | nil => exact .last 0 l
  | cons c old =>
      obtain ⟨r, h⟩ := exists_rewrites c old new l.text l.view 0
      have hEq : r = l.replace (c :: old) new := h.eq_substituteFrom
      exact hEq ▸ h

theorem Aligned.replace {l : Line} (h : l.Aligned) (old new : Text) :
    (l.replace old new).Aligned :=
  (rewrites_replace l old new).aligned h

theorem hidden_replace (l : Line) (old new : Text) : (l.replace old new).hidden = l.hidden :=
  (rewrites_replace l old new).hidden_eq

theorem replace_eq_self_iff {l : Line} {old : Text} (h : l.occurrences old ≠ []) (new : Text) :
    l.replace old new = l ↔ old = new :=
  (rewrites_replace l old new).eq_self_iff h

end Sightline.Line
