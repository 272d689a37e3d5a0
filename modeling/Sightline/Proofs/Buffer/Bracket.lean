import Mathlib.Combinatorics.Enumerative.DyckWord
import Sightline.Buffer.Bracket

/-! The bracket that closes an opening one. The views behind the opening bracket,
read as one text in which every character knows its place, fall into a balanced
word, the closing bracket and a rest, or they do not fall that way at all; the scan
over lines and columns finds the closing bracket of that split. -/
namespace Sightline.Buffer

/-- A character of the views, with the index of its line and its column. -/
structure Placed where
  char : Char
  line : Nat
  column : Nat
  deriving DecidableEq, Repr

/-- The index of the line and the column right behind a character. -/
def Placed.behind (p : Placed) : Nat × Nat := (p.line, p.column + 1)

/-- The characters of the rest of a view, the first of which is in `column`. -/
def placedView (line column : Nat) : Text → List Placed
  | [] => []
  | c :: rest => ⟨c, line, column⟩ :: placedView line (column + 1) rest

/-- The characters of whole views, the first of which is at index `line`. -/
def placedViews : (line : Nat) → List Text → List Placed
  | _, [] => []
  | line, view :: views => placedView line 0 view ++ placedViews (line + 1) views

/-- The characters of the views from `column` of the view at index `line` on. -/
def placedFrom (line column : Nat) (views : List Text) : List Placed :=
  match views.drop line with
  | [] => []
  | view :: rest => placedView line column (view.drop column) ++ placedViews (line + 1) rest

theorem char_placedView (line column : Nat) (s : Text) :
    (placedView line column s).map Placed.char = s := by
  induction s generalizing column with
  | nil => rfl
  | cons c rest ih => simp [placedView, ih]

theorem char_placedViews (line : Nat) (views : List Text) :
    (placedViews line views).map Placed.char = views.flatten := by
  induction views generalizing line with
  | nil => rfl
  | cons view views ih => simp [placedViews, char_placedView, ih]

/-- Without their places the characters are those of the rest of the first view,
followed by all views behind it. -/
theorem char_placedFrom {line column : Nat} {views : List Text} {view : Text}
    (h : views[line]? = some view) :
    (placedFrom line column views).map Placed.char =
      view.drop column ++ (views.drop (line + 1)).flatten := by
  obtain ⟨hLine, rfl⟩ := List.getElem?_eq_some_iff.mp h
  rw [placedFrom, List.drop_eq_getElem_cons hLine]
  simp [char_placedView, char_placedViews]

theorem place_of_mem_placedView {p : Placed} {line column : Nat} {s : Text}
    (h : p ∈ placedView line column s) :
    p.line = line ∧ column ≤ p.column ∧ s[p.column - column]? = some p.char := by
  induction s generalizing column with
  | nil => cases h
  | cons c rest ih =>
      rcases List.mem_cons.mp h with rfl | hRest
      · exact ⟨rfl, Nat.le_refl _, by simp⟩
      · obtain ⟨hLine, hColumn, hChar⟩ := ih hRest
        refine ⟨hLine, by omega, ?_⟩
        rw [show p.column - column = p.column - (column + 1) + 1 by omega]
        exact hChar

theorem place_of_mem_placedViews {p : Placed} {line : Nat} {views : List Text}
    (h : p ∈ placedViews line views) :
    line ≤ p.line ∧ ∃ view, views[p.line - line]? = some view ∧ view[p.column]? = some p.char := by
  induction views generalizing line with
  | nil => cases h
  | cons view views ih =>
      rcases List.mem_append.mp h with hView | hViews
      · obtain ⟨rfl, -, hChar⟩ := place_of_mem_placedView hView
        exact ⟨Nat.le_refl _, view, by simp, hChar⟩
      · obtain ⟨hLine, hPlace⟩ := ih hViews
        refine ⟨by omega, ?_⟩
        rw [show p.line - line = p.line - (line + 1) + 1 by omega]
        exact hPlace

/-- Every character is in the views, at its place. -/
theorem place_of_mem_placedFrom {p : Placed} {line column : Nat} {views : List Text}
    (h : p ∈ placedFrom line column views) :
    ∃ view, views[p.line]? = some view ∧ view[p.column]? = some p.char := by
  rw [placedFrom] at h
  split at h
  · cases h
  next view rest hDrop =>
    have hAt (i : Nat) : views[line + i]? = (view :: rest)[i]? := by
      rw [← hDrop, List.getElem?_drop]
    rcases List.mem_append.mp h with hView | hViews
    · obtain ⟨rfl, hColumn, hChar⟩ := place_of_mem_placedView hView
      rw [List.getElem?_drop, Nat.add_sub_cancel' hColumn] at hChar
      exact ⟨view, hAt 0, hChar⟩
    · obtain ⟨hLine, later, hLater, hChar⟩ := place_of_mem_placedViews hViews
      refine ⟨later, ?_, hChar⟩
      rw [← hLater, show p.line = line + (p.line - (line + 1) + 1) by omega, hAt]
      simp only [List.getElem?_cons_succ]
      congr 1
      omega

/-! The scan, over places. -/
section Scan
variable (opening closing : Text)

/-- The character behind which no bracket is open any more, if `depth` are open
in front of the first one. -/
def closingOf : (depth : Nat) → List Placed → Option Placed
  | _, [] => none
  | depth, p :: rest =>
    match bracketDepth opening closing depth p.char with
    | 0 => some p
    | depth + 1 => closingOf (depth + 1) rest

theorem closingOf_placedView (depth line column : Nat) (s : Text) (rest : List Placed) :
    (closingOf opening closing depth (placedView line column s ++ rest)).map Placed.behind =
      match closeInView opening closing depth column s with
      | .inl column => some (line, column)
      | .inr depth => (closingOf opening closing depth rest).map Placed.behind := by
  induction s generalizing depth column with
  | nil => rfl
  | cons c s ih =>
      simp only [placedView, List.cons_append, closingOf, closeInView]
      cases bracketDepth opening closing depth c with
      | zero => rfl
      | succ depth => exact ih (depth + 1) (column + 1)

theorem closeInViews_eq (depth line : Nat) (views : List Text) :
    closeInViews opening closing depth line views =
      (closingOf opening closing depth (placedViews line views)).map Placed.behind := by
  induction views generalizing depth line with
  | nil => rfl
  | cons view views ih =>
      rw [closeInViews, placedViews, closingOf_placedView]
      cases closeInView opening closing depth 0 view with
      | inl column => rfl
      | inr depth => exact ih depth (line + 1)

/-- The search over lines and columns finds what the scan over places finds. -/
theorem closingPlace_eq (line column : Nat) (views : List Text) :
    closingPlace opening closing line column views =
      (closingOf opening closing 1 (placedFrom line column views)).map Placed.behind := by
  rw [closingPlace, placedFrom]
  cases views.drop line with
  | nil => rfl
  | cons view rest =>
      simp only [closingOf_placedView]
      cases closeInView opening closing 1 column (view.drop column) with
      | inl column => rfl
      | inr depth => exact closeInViews_eq opening closing depth (line + 1) rest

end Scan

/-! Balanced text. -/

open DyckStep in
/-- The brackets of a text, as steps up and down. -/
def brackets (opening closing : Char) (s : Text) : List DyckStep :=
  s.filterMap fun c => if c = opening then some U else if c = closing then some D else none

/-- The brackets of a text form a Dyck word. -/
def Balanced (opening closing : Char) (s : Text) : Prop :=
  ∃ word : DyckWord, word.toList = brackets opening closing s

/-- Steps that lead down from some height to the ground and never go below it. -/
def Lands (height : Nat) (steps : List DyckStep) : Prop :=
  steps.count .D = height + steps.count .U ∧
    ∀ i, (steps.take i).count .D ≤ height + (steps.take i).count .U

theorem lands_nil (height : Nat) : Lands height [] ↔ height = 0 := by
  simp [Lands, eq_comm]

theorem lands_up (height : Nat) (steps : List DyckStep) :
    Lands height (.U :: steps) ↔ Lands (height + 1) steps := by
  rw [Lands, Lands, ← Nat.and_forall_add_one]
  simp only [List.take_succ_cons, List.count_cons]
  simp [Nat.add_assoc, Nat.add_comm 1]

theorem lands_down (height : Nat) (steps : List DyckStep) :
    Lands (height + 1) (.D :: steps) ↔ Lands height steps := by
  rw [Lands, Lands, ← Nat.and_forall_add_one]
  simp only [List.take_succ_cons, List.count_cons]
  simp [Nat.add_right_comm]

theorem not_lands_down (steps : List DyckStep) : ¬Lands 0 (.D :: steps) := by
  intro h
  have := h.2 1
  simp at this

theorem balanced_iff (opening closing : Char) (s : Text) :
    Balanced opening closing s ↔ Lands 0 (brackets opening closing s) := by
  simp only [Balanced, Lands, Nat.zero_add]
  refine ⟨?_, fun h => ⟨⟨_, h.1.symm, h.2⟩, rfl⟩⟩
  rintro ⟨word, hWord⟩
  exact hWord ▸ ⟨word.count_U_eq_count_D.symm, word.count_D_le_count_U⟩

variable {opening closing : Char}

@[simp] theorem brackets_cons_opening (s : Text) :
    brackets opening closing (opening :: s) = .U :: brackets opening closing s := by
  simp [brackets]

theorem brackets_cons_closing (hDistinct : opening ≠ closing) (s : Text) :
    brackets opening closing (closing :: s) = .D :: brackets opening closing s := by
  simp [brackets, hDistinct.symm]

theorem brackets_cons_other {c : Char} (hOpening : c ≠ opening) (hClosing : c ≠ closing)
    (s : Text) : brackets opening closing (c :: s) = brackets opening closing s := by
  simp [brackets, hOpening, hClosing]

/-- A closing bracket behind a balanced text is one too many for a text that goes
on from there. -/
theorem Balanced.not_append_closing (hDistinct : opening ≠ closing) {s : Text} (t : Text)
    (h : Balanced opening closing s) : ¬Balanced opening closing (s ++ closing :: t) := by
  rw [balanced_iff] at h ⊢
  intro hLong
  have hSteps : brackets opening closing (s ++ closing :: t) =
      brackets opening closing s ++ .D :: brackets opening closing t := by
    simp [brackets, hDistinct.symm]
  have hDown := hLong.2 ((brackets opening closing s).length + 1)
  rw [hSteps, List.take_length_add_append] at hDown
  have hGround := h.1
  simp only [List.take_succ_cons, List.take_zero, List.count_append, List.count_cons,
    List.count_nil, beq_self_eq_true, if_true, reduceCtorEq, beq_iff_eq, if_false] at hDown
  omega

/-- There is one way at most to split a text into a balanced part, a closing
bracket and a rest. -/
theorem balanced_split_unique (hDistinct : opening ≠ closing) {w w' rest rest' : Text}
    (hSplit : w ++ closing :: rest = w' ++ closing :: rest') (h : Balanced opening closing w)
    (h' : Balanced opening closing w') : w = w' ∧ rest = rest' := by
  rcases List.append_eq_append_iff.mp hSplit with ⟨more, hw, hRest⟩ | ⟨more, hw, hRest⟩
  · cases more with
    | nil => simp_all
    | cons c more =>
        cases hRest
        rw [hw] at h'
        exact absurd h' (h.not_append_closing hDistinct _)
  · cases more with
    | nil => simp_all
    | cons c more =>
        cases hRest
        rw [hw] at h
        exact absurd h (h'.not_append_closing hDistinct _)

/-- Some placed characters fall into the text `w`, the character `p` that is a
closing bracket, and a rest. -/
def SplitsAt (closing : Char) (ps : List Placed) (w rest : Text) (p : Placed) : Prop :=
  ps.map Placed.char = w ++ closing :: rest ∧ ps[w.length]? = some p

/-- The closing bracket of a split is the first character, or one of the others. -/
theorem exists_splitsAt_cons {x p : Placed} {ps : List Placed} {P : Text → Prop} :
    (∃ w rest, SplitsAt closing (x :: ps) w rest p ∧ P w) ↔
      (x.char = closing ∧ x = p ∧ P []) ∨
        ∃ w rest, SplitsAt closing ps w rest p ∧ P (x.char :: w) := by
  constructor
  · rintro ⟨w, rest, ⟨hText, hAt⟩, hP⟩
    cases w with
    | nil =>
        simp only [List.map_cons, List.nil_append, List.cons.injEq] at hText
        exact Or.inl ⟨hText.1, Option.some.inj hAt, hP⟩
    | cons c w =>
        simp only [List.map_cons, List.cons_append, List.cons.injEq] at hText
        exact Or.inr ⟨w, rest, ⟨hText.2, hAt⟩, hText.1 ▸ hP⟩
  · rintro (⟨hClosing, rfl, hP⟩ | ⟨w, rest, ⟨hText, hAt⟩, hP⟩)
    · exact ⟨[], ps.map Placed.char, ⟨by simp [hClosing], rfl⟩, hP⟩
    · exact ⟨x.char :: w, rest, ⟨by simp [hText], hAt⟩, hP⟩

/-- The scan finds the closing bracket behind a text whose brackets lead down to
the ground from the brackets that are open besides the one to be closed. -/
theorem closingOf_eq_some_iff (hDistinct : opening ≠ closing) (height : Nat) (ps : List Placed)
    (p : Placed) :
    closingOf [opening] [closing] (height + 1) ps = some p ↔
      ∃ w rest, SplitsAt closing ps w rest p ∧ Lands height (brackets opening closing w) := by
  induction ps generalizing height with
  | nil => simp [closingOf, SplitsAt]
  | cons x ps ih =>
      rw [exists_splitsAt_cons, closingOf, bracketDepth]
      simp only [List.cons.injEq, and_true]
      by_cases hOpening : x.char = opening
      · simp only [hOpening, hDistinct, if_true, ih, false_and, false_or, brackets_cons_opening,
          lands_up]
      · by_cases hClosing : x.char = closing
        · simp only [hClosing, hDistinct.symm, if_false, if_true, brackets_cons_closing hDistinct,
            true_and, Nat.add_sub_cancel]
          cases height with
          | zero =>
              have hHere : Lands 0 (brackets opening closing []) := (lands_nil 0).mpr rfl
              simp [not_lands_down, hHere]
          | succ height =>
              have hNot : ¬Lands (height + 1) (brackets opening closing []) :=
                fun h => Nat.succ_ne_zero height ((lands_nil _).mp h)
              simp only [ih, hNot, and_false, false_or, lands_down]
        · simp only [hOpening, hClosing, if_false, ih, false_and, false_or,
            brackets_cons_other hOpening hClosing]

/-- What has to be so for a text to be put behind the bracket in `column` of the
line at `index`, which closes the one at the end of the first occurrence of
`located` on the cursor's line. From there on the views fall into a balanced text
`w`, that bracket and a rest. -/
def ClosesAt (b : Buffer) (located : Text) (opening closing : Char) (w rest : Text)
    (index column : Nat) : Prop :=
  0 ≤ b.position ∧ ∃ line k, b.lines[b.position.toNat]? = some line ∧
    located <+: line.view.drop k ∧ (∀ j < k, ¬located <+: line.view.drop j) ∧
    line.view.drop (k + located.length) ++ (b.views.drop (b.position.toNat + 1)).flatten =
      w ++ closing :: rest ∧
    Balanced opening closing w ∧
    (placedFrom b.position.toNat (k + located.length) b.views)[w.length]? =
      some ⟨closing, index, column⟩

theorem ClosesAt.unique (hDistinct : opening ≠ closing) {b : Buffer}
    {located w w' rest rest' : Text} {index index' column column' : Nat}
    (h : b.ClosesAt located opening closing w rest index column)
    (h' : b.ClosesAt located opening closing w' rest' index' column') :
    w = w' ∧ rest = rest' ∧ index = index' ∧ column = column' := by
  obtain ⟨_, line, k, hLine, hFound, hFirst, hSplit, hBalanced, hPlace⟩ := h
  obtain ⟨_, line', k', hLine', hFound', hFirst', hSplit', hBalanced', hPlace'⟩ := h'
  obtain rfl : line = line' := Option.some.inj (hLine.symm.trans hLine')
  obtain rfl : k = k' := Option.some.inj
    ((Text.find?_eq_some_iff.mpr ⟨hFound, hFirst⟩).symm.trans
      (Text.find?_eq_some_iff.mpr ⟨hFound', hFirst'⟩))
  obtain ⟨rfl, rfl⟩ :=
    balanced_split_unique hDistinct (hSplit.symm.trans hSplit') hBalanced hBalanced'
  have hSame := Option.some.inj (hPlace.symm.trans hPlace')
  simp only [Placed.mk.injEq, true_and] at hSame
  exact ⟨rfl, rfl, hSame⟩

/-- A place behind a closing bracket, as the search returns it, is one of a split. -/
theorem closingPlace_eq_some_iff (hDistinct : opening ≠ closing) {line : Nat} (column : Nat)
    {views : List Text} {view : Text} (hView : views[line]? = some view) (place : Nat × Nat) :
    closingPlace [opening] [closing] line column views = some place ↔
      ∃ w rest index bracket, place = (index, bracket + 1) ∧
        view.drop column ++ (views.drop (line + 1)).flatten = w ++ closing :: rest ∧
        Balanced opening closing w ∧
        (placedFrom line column views)[w.length]? = some ⟨closing, index, bracket⟩ := by
  rw [closingPlace_eq, Option.map_eq_some_iff]
  simp only [closingOf_eq_some_iff hDistinct 0, SplitsAt, char_placedFrom hView, ← balanced_iff]
  constructor
  · rintro ⟨p, ⟨w, rest, ⟨hText, hAt⟩, hBalanced⟩, rfl⟩
    have hChar : p.char = closing := by
      have hMap := congrArg (·[w.length]?) ((char_placedFrom hView).trans hText)
      simpa [hAt] using hMap
    exact ⟨w, rest, p.line, p.column, rfl, hText, hBalanced, hChar ▸ hAt⟩
  · rintro ⟨w, rest, index, bracket, rfl, hText, hBalanced, hAt⟩
    exact ⟨⟨closing, index, bracket⟩, ⟨w, rest, ⟨hText, hAt⟩, hBalanced⟩, rfl⟩

/-- The line and the column right behind the bracket that closes the one at the end
of the first occurrence of `located` on the cursor's line. -/
def bracketPlace? (located opening closing : Text) (b : Buffer) : Option (Nat × Nat) :=
  b.current?.bind fun line => (Text.find? located line.view).bind fun k =>
    closingPlace opening closing b.position.toNat (k + located.length) b.views

/-- The line and the column at which the operation puts its text. -/
structure SpliceSite (b : Buffer) (located opening closing : Text) (index column : Nat)
    (target : Line) : Prop where
  place : b.bracketPlace? located opening closing = some (index, column)
  line : b.lines[index]? = some target
  /-- Nothing in front of the column is hidden. -/
  clear : target.text.take column = target.view.take column

/-- The operation puts its text at the site, or there is no site and it refuses. -/
theorem insertBehindBracket_cases (b : Buffer) {located opening : Text} (s closing : Text)
    (hEnds : opening.isSuffixOf located = true) :
    (∃ index column target, b.SpliceSite located opening closing index column target ∧
      b.insertBehindBracket located s opening closing =
        .ok ⟨⟨b.lines.set index (target.splice column s), index⟩, true,
          [(Edit.splice index column s).record]⟩) ∨
    ((∀ index column target, ¬b.SpliceSite located opening closing index column target) ∧
      ∃ records, (∀ r ∈ records, r.channel = .engine) ∧
        b.insertBehindBracket located s opening closing = .ok ⟨b, false, records⟩) := by
  simp only [insertBehindBracket, hEnds, Bool.not_true, Bool.false_eq_true, if_false]
  split
  next hLine =>
    refine Or.inr ⟨fun index column target site => ?_, [], by simp, rfl⟩
    have := site.place
    simp [bracketPlace?, hLine] at this
  next line hLine =>
    split
    next hFind =>
      refine Or.inr ⟨fun index column target site => ?_, _, by simp [Record.note], rfl⟩
      have := site.place
      simp [bracketPlace?, hLine, hFind] at this
    next k hFind =>
      have hPlace : b.bracketPlace? located opening closing =
          closingPlace opening closing b.position.toNat (k + located.length) b.views := by
        simp [bracketPlace?, hLine, hFind]
      split
      next hClosing =>
        refine Or.inr ⟨fun index column target site => ?_, _, by simp [Record.note], rfl⟩
        cases hClosing.symm.trans (hPlace.symm.trans site.place)
      next index column hClosing =>
        split
        next hNone =>
          refine Or.inr ⟨fun index' column' target site => ?_, [], by simp, rfl⟩
          cases hClosing.symm.trans (hPlace.symm.trans site.place)
          cases hNone.symm.trans site.line
        next target hTarget =>
          split
          next hHidden =>
            refine Or.inr ⟨fun index' column' target' site => ?_, _, by simp [Record.note], rfl⟩
            cases hClosing.symm.trans (hPlace.symm.trans site.place)
            cases hTarget.symm.trans site.line
            exact hHidden site.clear
          next hClear =>
            exact Or.inl ⟨index, column, target,
              ⟨hPlace.trans hClosing, hTarget, not_not.mp hClear⟩, rfl⟩

/-- Between two brackets that differ, the place to put a text is right behind the
bracket that closes, of the split that the views fall into. -/
theorem bracketPlace?_eq_some_iff (hDistinct : opening ≠ closing) (b : Buffer) (located : Text)
    (place : Nat × Nat) :
    b.bracketPlace? located [opening] [closing] = some place ↔
      ∃ w rest index column, place = (index, column + 1) ∧
        b.ClosesAt located opening closing w rest index column := by
  simp only [bracketPlace?, Option.bind_eq_some_iff, current?_eq_some_iff, Text.find?_eq_some_iff]
  constructor
  · rintro ⟨line, ⟨hRange, hLine⟩, k, ⟨hFound, hFirst⟩, hPlace⟩
    have hView : b.views[b.position.toNat]? = some line.view := by simp [views, hLine]
    obtain ⟨w, rest, index, column, hEq, hSplit, hBalanced, hAt⟩ :=
      (closingPlace_eq_some_iff hDistinct _ hView place).mp hPlace
    exact ⟨w, rest, index, column, hEq, hRange, line, k, hLine, hFound, hFirst, hSplit,
      hBalanced, hAt⟩
  · rintro ⟨w, rest, index, column, hEq, hRange, line, k, hLine, hFound, hFirst, hSplit,
      hBalanced, hAt⟩
    have hView : b.views[b.position.toNat]? = some line.view := by simp [views, hLine]
    exact ⟨line, ⟨hRange, hLine⟩, k, ⟨hFound, hFirst⟩,
      (closingPlace_eq_some_iff hDistinct _ hView place).mpr
        ⟨w, rest, index, column, hEq, hSplit, hBalanced, hAt⟩⟩

/-- The line with the bracket that closes, on which the bracket and all in front of
it can be seen. -/
structure ClosesInSight (b : Buffer) (located : Text) (opening closing : Char) (w rest : Text)
    (index column : Nat) (target : Line) : Prop where
  closes : b.ClosesAt located opening closing w rest index column
  line : b.lines[index]? = some target
  clear : target.text.take (column + 1) = target.view.take (column + 1)

/-- The bracket stands in the text as it does in the view. -/
theorem ClosesInSight.closing_at {b : Buffer} {located w rest : Text} {index column : Nat}
    {target : Line} (h : b.ClosesInSight located opening closing w rest index column target) :
    target.text[column]? = some closing ∧ target.view[column]? = some closing := by
  obtain ⟨_, _, _, _, _, _, _, _, hPlace⟩ := h.closes
  obtain ⟨view, hView, hChar⟩ := place_of_mem_placedFrom (List.mem_of_getElem? hPlace)
  obtain rfl : target.view = view := by simpa [views, h.line] using hView
  have hSame := congrArg (·[column]?) h.clear
  simp only [List.getElem?_take_of_lt (Nat.lt_add_one column)] at hSame
  exact ⟨hSame.trans hChar, hChar⟩

/-- The site of a splice is right behind a bracket that closes in sight. -/
theorem spliceSite_iff (hDistinct : opening ≠ closing) (b : Buffer) (located : Text)
    (index column : Nat) (target : Line) :
    b.SpliceSite located [opening] [closing] index column target ↔
      ∃ w rest bracket, column = bracket + 1 ∧
        b.ClosesInSight located opening closing w rest index bracket target := by
  constructor
  · intro site
    obtain ⟨w, rest, index', bracket, hPlace, hCloses⟩ :=
      (bracketPlace?_eq_some_iff hDistinct b located _).mp site.place
    cases hPlace
    exact ⟨w, rest, bracket, rfl, hCloses, site.line, site.clear⟩
  · rintro ⟨w, rest, bracket, rfl, sight⟩
    refine ⟨?_, sight.line, sight.clear⟩
    exact (bracketPlace?_eq_some_iff hDistinct b located _).mpr
      ⟨w, rest, index, bracket, rfl, sight.closes⟩

end Sightline.Buffer
