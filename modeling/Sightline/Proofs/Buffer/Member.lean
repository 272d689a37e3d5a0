import Sightline.Proofs.Buffer.Search

/-! The end of a member, by the lines that are closing braces. With a member below it is the last
brace in front of that member, wherever the cursor is. With none below, the braces of the buffer
are counted from the end; the first line cannot be left upward, so a brace on it counts for as many
blocks as are left. -/
namespace Sightline.Buffer

/-- The line at an index is a closing brace, blanks at its ends aside. -/
def closesAt (b : Buffer) (index : Nat) : Bool := b.fitsAt (being closingBrace) index

/-- The lines in front of an index that are closing braces, the last one first. -/
def closings (b : Buffer) (bound : Nat) : List Nat :=
  ((List.range bound).filter b.closesAt).reverse

theorem mem_closings {b : Buffer} {bound index : Nat} :
    index ∈ b.closings bound ↔ index < bound ∧ b.closesAt index = true := by
  rw [closings, List.mem_reverse, List.mem_filter, List.mem_range]

theorem closings_succ (b : Buffer) (bound : Nat) :
    b.closings (bound + 1) =
      if b.closesAt bound then bound :: b.closings bound else b.closings bound := by
  rw [closings, List.range_succ, List.filter_append, List.reverse_append, List.filter_singleton]
  cases b.closesAt bound <;> rfl

/-- Behind the last closing brace come those in front of it. -/
theorem closings_eq_cons {b : Buffer} {bound last : Nat} {rest : List Nat}
    (h : b.closings bound = last :: rest) :
    last < bound ∧ b.closesAt last = true ∧
      (∀ j, last < j → j < bound → b.closesAt j = false) ∧ rest = b.closings last := by
  induction bound with
  | zero => cases h
  | succ bound ih =>
      rw [closings_succ] at h
      split_ifs at h with hCloses
      · cases h
        exact ⟨Nat.lt_succ_self _, hCloses, fun j _ _ => by omega, rfl⟩
      · obtain ⟨hLt, hLast, hNone, hRest⟩ := ih h
        refine ⟨by omega, hLast, fun j hj hBound => ?_, hRest⟩
        obtain rfl | hj' := Nat.lt_succ_iff_lt_or_eq.mp hBound |>.symm
        · exact Bool.eq_false_iff.mpr hCloses
        · exact hNone j hj hj'

theorem closings_eq_nil_iff {b : Buffer} {bound : Nat} :
    b.closings bound = [] ↔ ∀ j < bound, b.closesAt j = false := by
  rw [List.eq_nil_iff_forall_not_mem]
  simp only [mem_closings, not_and, Bool.not_eq_true]

theorem head?_closings {b : Buffer} {bound last : Nat} (hLt : last < bound)
    (hCloses : b.closesAt last = true)
    (hLast : ∀ j, last < j → j < bound → b.closesAt j = false) :
    (b.closings bound).head? = some last := by
  have hIn : last ∈ b.closings bound := mem_closings.mpr ⟨hLt, hCloses⟩
  cases hBraces : b.closings bound with
  | nil => simp [hBraces] at hIn
  | cons brace rest =>
      obtain ⟨hBound, hBrace, hNone, -⟩ := closings_eq_cons hBraces
      have hSame : brace = last := by
        obtain hBefore | hSame | hBehind := Nat.lt_trichotomy brace last
        · cases hCloses.symm.trans (hNone last hBefore hLt)
        · exact hSame
        · cases hBrace.symm.trans (hLast brace hBehind hBound)
      rw [hSame]
      rfl

/-- One line up, unless it is the first. -/
theorem jump_up {b : Buffer} {index : Nat} (h : index < b.size) :
    (({ b with position := index } : Buffer).jump (-1)).1 =
      { b with position := (index - 1 : Nat) } := by
  have hSize : (⟨b.lines, index⟩ : Buffer).size = b.size := rfl
  simp only [jump, hSize]
  split_ifs with hEnd hFront
  · omega
  · obtain rfl : index = 0 := by omega
    rfl
  · rw [Buffer.mk.injEq]
    exact ⟨rfl, by omega⟩

/-- A block is left upward by the last closing brace from the cursor up. -/
theorem leaveBlocks_of_last {b : Buffer} {last : Nat} (block : String) (blocks : List String)
    (hReach : last ≤ b.position) (hCloses : b.closesAt last = true)
    (hLast : ∀ j : Nat, last < j → j ≤ b.position → b.closesAt j = false) :
    let above := leaveBlocks blocks { b with position := (last - 1 : Nat) }
    (b.leaveBlocks (block :: blocks)).answer = above.answer ∧
      (b.leaveBlocks (block :: blocks)).buffer = above.buffer := by
  have hUp := jump_up (lt_size_of_fitsAt hCloses)
  simp only [leaveBlocks, seekBackBeing, reported, backward_of_last hReach hCloses hLast, hUp,
    and_self]

theorem leaveBlocks_of_none {b : Buffer} (block : String) (blocks : List String)
    (h : ∀ j : Nat, j ≤ b.position → b.closesAt j = false) :
    (b.leaveBlocks (block :: blocks)).answer = false ∧
      (b.leaveBlocks (block :: blocks)).buffer = { b with position := -1 } := by
  simp only [leaveBlocks, seekBackBeing, reported,
    backward_of_none (being closingBrace) h, and_self]

/-- What is in front of the first closing brace from the cursor up, one line above it. -/
theorem closings_above {b : Buffer} {last : Nat} (h : b.closesAt last = true) :
    b.closings (last - 1 + 1) = b.closings last ∨ last = 0 ∧ b.closings (last - 1 + 1) = [0] := by
  cases last with
  | zero =>
      refine .inr ⟨rfl, ?_⟩
      rw [closings_succ, if_pos h]
      rfl
  | succ last => exact .inl rfl

/-- As many blocks are left upward as there are closing braces from the cursor up, or any number
if there is one on the first line. The cursor goes above the brace of the last block; on the first
line it stays. -/
theorem leaveBlocks_spec (blocks : List String) {b : Buffer} {start : Nat}
    (hStart : b.position = start) :
    let braces := b.closings (start + 1)
    let last := b.leaveBlocks blocks
    (last.answer = true ↔ blocks.length ≤ braces.length ∨ b.closesAt 0 = true) ∧
      last.buffer = { b with position := if last.answer then
        ((start :: braces.map (· - 1))[blocks.length]?.getD 0 : Nat) else -1 } := by
  induction blocks generalizing b start with
  | nil =>
      refine ⟨iff_of_true rfl (.inl (Nat.zero_le _)), ?_⟩
      rw [leaveBlocks, Buffer.mk.injEq]
      exact ⟨rfl, hStart⟩
  | cons block blocks ih =>
      intro braces last
      cases hBraces : braces with
      | nil =>
          have hNone := closings_eq_nil_iff.mp hBraces
          obtain ⟨hAnswer, hBuffer⟩ := leaveBlocks_of_none block blocks (b := b)
            fun j hj => hNone j (by omega)
          simp [last, hAnswer, hBuffer, hNone 0 (Nat.succ_pos _)]
      | cons brace rest =>
          obtain ⟨hLt, hCloses, hLast, rfl⟩ := closings_eq_cons hBraces
          obtain ⟨hAnswer, hBuffer⟩ := leaveBlocks_of_last block blocks
            (b := b) (by omega) hCloses fun j hj hReach => hLast j hj (by omega)
          obtain ⟨hAbove, hPlace⟩ := ih (b := { b with position := (brace - 1 : Nat) }) rfl
          change _ ↔ _ ≤ (b.closings (brace - 1 + 1)).length ∨ b.closesAt 0 = true at hAbove
          change _ = Buffer.mk b.lines (if _ then
            (((brace - 1) :: (b.closings (brace - 1 + 1)).map (· - 1))[blocks.length]?.getD 0 : Nat)
            else -1) at hPlace
          simp only [last, hAnswer, hBuffer]
          obtain hSame | ⟨rfl, hOne⟩ := closings_above hCloses
          · rw [hSame] at hAbove hPlace
            exact ⟨hAbove.trans (by simp), hPlace⟩
          · rw [hOne] at hAbove hPlace
            refine ⟨iff_of_true (hAbove.mpr (.inr hCloses)) (.inr hCloses), ?_⟩
            -- the first line is found again for every block that is left
            rw [hPlace, List.length_cons]
            rcases blocks.length with _ | _ | n <;> rfl

/-- One line down, unless it is the last. -/
theorem jump_down {b : Buffer} {index : Nat} (hCursor : b.position = index)
    (hOn : index < b.size) :
    (b.jump 1).1 = { b with position := (min (index + 1) (b.size - 1) : Nat) } := by
  simp only [jump, hCursor]
  split_ifs with hEnd hFront
  · rw [Buffer.mk.injEq]
    exact ⟨rfl, by omega⟩
  · omega
  · rw [Buffer.mk.injEq]
    exact ⟨rfl, by omega⟩

/-- From behind the last line the way down leads onto it. -/
theorem jump_end {b : Buffer} (h : 0 < b.size) :
    (({ b with position := b.size } : Buffer).jump b.size).1 =
      { b with position := (b.size - 1 : Nat) } := by
  have hSize : (⟨b.lines, b.size⟩ : Buffer).size = b.size := rfl
  simp only [jump, hSize]
  rw [if_pos (by omega), Buffer.mk.injEq]
  exact ⟨rfl, by omega⟩

theorem seekShown_of_none {b : Buffer} (shown : List Value) (texts : List Text)
    (h : ∀ j : Nat, b.position ≤ j → b.fitsAt (havingAny texts) j = false) :
    (b.seekShown shown texts).answer = none ∧
      (b.seekShown shown texts).buffer = { b with position := b.size } := by
  simp only [seekShown, forward_of_none _ h, and_self]

theorem seekShown_of_first {b : Buffer} {index : Nat} (shown : List Value) (texts : List Text)
    (hFront : b.position ≤ index) (hHas : b.fitsAt (havingAny texts) index = true)
    (hFirst : ∀ j : Nat, b.position ≤ j → j < index → b.fitsAt (havingAny texts) j = false) :
    (b.seekShown shown texts).answer.isSome = true ∧
      (b.seekShown shown texts).buffer = { b with position := index } := by
  obtain ⟨line, hLine, hHolds⟩ := (Option.any_eq_true _ _).mp hHas
  rw [seekShown_at shown (forward_of_first hFront hHas hFirst) hLine]
  exact ⟨(isSome_find?_holds texts line.view).trans hHolds, rfl⟩

/-- Where the search for an end leaves the cursor: one line above a brace, or on it if it is on the
first line, and in front of all lines if there is no end. -/
def endPlace (found : Bool) (brace : Nat) : Int := if found then (brace - 1 : Nat) else -1

/-- With a member below, the last closing brace in front of it ends the one above. -/
theorem endAbove_of_some {next : Step (Option Text)} {b : Buffer} {start : Nat}
    (hNext : next.answer.isSome = true) (hBuffer : next.buffer = { b with position := start }) :
    let braces := b.closings (start + 1)
    ((endAbove next).answer = true ↔ braces ≠ []) ∧
      (endAbove next).buffer =
        { b with position := endPlace (endAbove next).answer (braces.head?.getD 0) } := by
  intro braces
  obtain ⟨s, hAnswer⟩ := Option.isSome_iff_exists.mp hNext
  cases hBraces : braces with
  | nil =>
      have hNone := closings_eq_nil_iff.mp hBraces
      have hBack := backward_of_none (b := { b with position := start }) (being closingBrace)
        fun j hj => hNone j (by dsimp only at hj; omega)
      simp [endAbove, hAnswer, hBuffer, seekBackBeing, reported, hBack, endPlace]
  | cons brace rest =>
      obtain ⟨hLt, hCloses, hLast, -⟩ := closings_eq_cons hBraces
      have hBack := backward_of_last (b := { b with position := start }) (by dsimp only; omega)
        hCloses fun j hj hReach => hLast j hj (by dsimp only at hReach; omega)
      have hUp := jump_up (lt_size_of_fitsAt hCloses)
      simp [endAbove, hAnswer, hBuffer, seekBackBeing, reported, hBack, hUp, endPlace]

/-- With none below, the way leads up from the last line through three blocks. -/
theorem endAbove_of_none {next : Step (Option Text)} {b : Buffer} (hNext : next.answer = none)
    (hBuffer : next.buffer = { b with position := b.size }) (hSize : 0 < b.size) :
    let braces := b.closings b.size
    ((endAbove next).answer = true ↔ 3 ≤ braces.length ∨ b.closesAt 0 = true) ∧
      (endAbove next).buffer =
        { b with position := endPlace (endAbove next).answer (braces[2]?.getD 0) } := by
  intro braces
  have hEnd : (next.buffer.jump next.buffer.size).1 =
      { b with position := (b.size - 1 : Nat) } := by
    rw [hBuffer]
    exact jump_end hSize
  obtain ⟨hAnswer, hPlace⟩ := leaveBlocks_spec ["namespace", "type", "member"]
    (b := { b with position := (b.size - 1 : Nat) }) rfl
  have hBraces : closings ⟨b.lines, (b.size - 1 : Nat)⟩ (b.size - 1 + 1) = braces := by
    rw [Nat.sub_add_cancel hSize]
    rfl
  simp only [endAbove, hNext, hEnd]
  rw [hBraces] at hAnswer hPlace
  refine ⟨hAnswer, hPlace.trans ?_⟩
  simp only [List.length_cons, List.length_nil, List.getElem?_cons_succ, List.getElem?_map,
    endPlace]
  cases braces[2]? <;> rfl

end Sightline.Buffer
