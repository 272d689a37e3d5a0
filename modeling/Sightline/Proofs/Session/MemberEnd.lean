import Sightline.Proofs.Buffer.Member
import Sightline.Proofs.Session.Navigation

/-! Where the search for the end of a member leads. With a member below the cursor it leads above
the last closing brace in front of that member, be it above the cursor as well. With none below it
leads above the third closing brace from the end, where one on the first line counts for all that
are missing. -/
namespace Sightline.Session
open Mask

/-- There is a line at an index, and its view has a keyword. -/
def hasKeyword (s : Session) (index : Nat) : Bool :=
  s.buffer.fitsAt (Buffer.havingAny (Buffer.leadingTexts s.keywords)) index

/-- The line that is taken for the start of the next member: the first one below the cursor that
has a keyword. There is no way down from the last line, so that its own keyword counts there. -/
structure NextMember (s : Session) (cursor next : Nat) : Prop where
  hasKeyword : s.hasKeyword next = true
  below : cursor < next ∨ next = cursor ∧ cursor + 1 = s.buffer.size
  first : ∀ j, cursor < j → j < next → s.hasKeyword j = false

/-- If all keywords are texts, the search does not fail. -/
theorem perform_seekMemberEnd {s : Session} (hKeywords : Buffer.misfit? s.keywords = none)
    (codecs : Registry) (store : Store) :
    s.perform codecs store .seekMemberEnd = afterStep store s .flag (Buffer.endAbove
      ((s.buffer.jump 1).1.seekShown s.keywords (Buffer.leadingTexts s.keywords))) := by
  simp only [perform, Buffer.seekCandidates, hKeywords]

/-- The session that is opened on some lines with the embedded settings. -/
def opened (given : List Text) : Session :=
  ⟨.ofLines (given.zipWith Line.mk (walkLines .standard false given)), none, .null,
    .ofDelimiters .standard, [.text "public", .text "internal", .text "protected", .text "private"]⟩

theorem ofLines_bare (given : List Text) : (ofLines bare given .bare).1 = .ok (opened given) := by
  have hStart : (start bare Opening.bare.onLines).1 = .ok (opened []) := rfl
  rw [ofLines_eq, hStart]
  simp only [Except.bind, opened, build_ofDelimiters]
  rfl

variable {s : Session} {cursor next : Nat}

/-- With no member at the cursor or below it, the blocks are left from the end of the buffer. -/
theorem seekMemberEnd_of_none (hKeywords : Buffer.misfit? s.keywords = none)
    (hCursor : s.buffer.position = cursor) (hOn : cursor < s.buffer.size)
    (hNone : ∀ j, cursor ≤ j → s.hasKeyword j = false) (codecs : Registry) (store : Store) :
    let outcome := s.perform codecs store .seekMemberEnd
    let braces := s.buffer.closings s.buffer.size
    ∃ found, outcome.answer = .ok (.flag found) ∧
      (found = true ↔ 3 ≤ braces.length ∨ s.buffer.closesAt 0 = true) ∧
      outcome.session.buffer =
        ⟨s.buffer.lines, Buffer.endPlace found (braces[2]?.getD 0)⟩ := by
  have hDown := Buffer.jump_down hCursor hOn
  -- from the last line the search starts at the cursor itself
  obtain ⟨hMiss, hEnd⟩ := Buffer.seekShown_of_none (b := (s.buffer.jump 1).1) s.keywords
    (Buffer.leadingTexts s.keywords) fun j hj => by
      rw [hDown] at hj ⊢
      exact hNone j (by dsimp only at hj; omega)
  rw [perform_seekMemberEnd hKeywords]
  rw [hDown] at hMiss hEnd ⊢
  obtain ⟨hFound, hBuffer⟩ := Buffer.endAbove_of_none (b := s.buffer) hMiss hEnd (by omega)
  exact ⟨_, rfl, hFound, hBuffer⟩

/-- With a member below, the last closing brace up to its start is the end. -/
theorem seekMemberEnd_of_next (hKeywords : Buffer.misfit? s.keywords = none)
    (hCursor : s.buffer.position = cursor) (hNext : s.NextMember cursor next)
    (codecs : Registry) (store : Store) :
    let outcome := s.perform codecs store .seekMemberEnd
    let braces := s.buffer.closings (next + 1)
    ∃ found, outcome.answer = .ok (.flag found) ∧ (found = true ↔ braces ≠ []) ∧
      outcome.session.buffer =
        ⟨s.buffer.lines, Buffer.endPlace found (braces.head?.getD 0)⟩ := by
  obtain ⟨hHas, hBelow, hFirst⟩ := hNext
  have hSize : next < s.buffer.size := Buffer.lt_size_of_fitsAt hHas
  have hDown := Buffer.jump_down hCursor (by omega)
  have hFront : (s.buffer.jump 1).1.position ≤ next := by
    rw [hDown]
    dsimp only
    omega
  obtain ⟨hHit, hEnd⟩ := Buffer.seekShown_of_first s.keywords (Buffer.leadingTexts s.keywords)
    hFront (by rw [hDown]; exact hHas) fun j hj hBefore => by
      rw [hDown] at hj ⊢
      exact hFirst j (by dsimp only at hj; omega) hBefore
  rw [perform_seekMemberEnd hKeywords]
  rw [hDown] at hHit hEnd ⊢
  obtain ⟨hFound, hBuffer⟩ := Buffer.endAbove_of_some (b := s.buffer) hHit hEnd
  exact ⟨_, rfl, hFound, hBuffer⟩

/-- With no member at the cursor or below it, there is an end exactly if three lines are closing
braces or the first one is, and the cursor goes above the third from the end. If the first line is
no closing brace, then there are three, and the cursor leaves the third. -/
theorem memberEnd_without_next (hKeywords : Buffer.misfit? s.keywords = none)
    (hCursor : s.buffer.position = cursor) (hOn : cursor < s.buffer.size)
    (hNone : ∀ j, cursor ≤ j → s.hasKeyword j = false) (codecs : Registry) (store : Store) :
    let outcome := s.perform codecs store .seekMemberEnd
    let position := outcome.session.buffer.position
    let braces := s.buffer.closings s.buffer.size
    ∃ found, outcome.answer = .ok (.flag found) ∧
      outcome.session.buffer.lines = s.buffer.lines ∧
      (found = true ↔ 3 ≤ braces.length ∨ s.buffer.closesAt 0 = true) ∧
      (found = true → position = (braces[2]?.getD 0 - 1 : Nat)) ∧
      (found = false → position = -1) ∧
      (s.buffer.closesAt 0 = false →
        (found = true ↔ 3 ≤ braces.length) ∧
        ∀ third : Nat, braces[2]? = some third → position + 1 = third) := by
  intro outcome position braces
  obtain ⟨found, hAnswer, hFound, hBuffer⟩ :=
    seekMemberEnd_of_none hKeywords hCursor hOn hNone codecs store
  have hPosition : position = Buffer.endPlace found (braces[2]?.getD 0) :=
    congrArg Buffer.position hBuffer
  refine ⟨found, hAnswer, (congrArg Buffer.lines hBuffer :), hFound, fun h => ?_, fun h => ?_,
    fun hOpen => ?_⟩
  · rw [hPosition, h]
    rfl
  · rw [hPosition, h]
    rfl
  · have hCount : found = true ↔ 3 ≤ braces.length := hFound.trans (by simp [hOpen, braces])
    refine ⟨hCount, fun third hThird => ?_⟩
    have hIn : third ∈ braces := List.mem_of_getElem? hThird
    have hPast : third ≠ 0 := by
      rintro rfl
      rw [(Buffer.mem_closings.mp hIn).2] at hOpen
      cases hOpen
    have hThree : 2 < braces.length := (List.getElem?_eq_some_iff.mp hThird).1
    rw [hPosition, hCount.mpr hThree, hThird, Option.getD_some, Buffer.endPlace, if_pos rfl]
    omega

/-- From the code of the last member, the cursor goes above the brace that ends the member. -/
theorem third_brace_from_end :
    let lines := [['{'], "x();".toList, ['}'], [' ', '}'], ['}']]
    let s := ((opened lines).perform .common (.empty "/") (.jump 1)).session
    Buffer.misfit? s.keywords = none ∧ s.buffer.position = (1 : Nat) ∧ 1 < s.buffer.size ∧
      (∀ j, 1 ≤ j → s.hasKeyword j = false) ∧ s.buffer.closings s.buffer.size = [4, 3, 2] ∧
      let outcome := s.perform .common (.empty "/") .seekMemberEnd
      outcome.answer = .ok (.flag true) ∧ outcome.session.buffer.position = 1 := by
  intro lines s
  have hNone (j : Nat) (_ : 1 ≤ j) : s.hasKeyword j = false := by
    rcases j with _ | _ | _ | _ | _ | j
    · decide +kernel
    · decide +kernel
    · decide +kernel
    · decide +kernel
    · decide +kernel
    · rfl
  have hBraces : s.buffer.closings s.buffer.size = [4, 3, 2] := by decide +kernel
  obtain ⟨found, hAnswer, -, hFound, hAbove, -, -⟩ :=
    memberEnd_without_next (s := s) rfl rfl (by decide +kernel) hNone .common (.empty "/")
  have hThree := hFound.mpr (.inl (by rw [hBraces]; decide))
  refine ⟨rfl, rfl, by decide +kernel, hNone, hBraces, ?_, ?_⟩
  · rw [hAnswer, hThree]
  · rw [hAbove hThree, hBraces]
    rfl

/-- A file with one closing brace, on its only line, has an end of a member for all that. -/
theorem lone_brace_ends_all_blocks :
    (ofLines bare [['}']] .bare).1 = .ok (opened [['}']]) ∧
    (opened [['}']]).buffer.position = 0 ∧
    (∀ j, (opened [['}']]).hasKeyword j = false) ∧
    (opened [['}']]).buffer.closings 1 = [0] ∧
    ((opened [['}']]).perform .common (.empty "/") .seekMemberEnd).answer = .ok (.flag true) := by
  refine ⟨ofLines_bare _, rfl, fun j => ?_, by decide +kernel, rfl⟩
  cases j with
  | zero => decide +kernel
  | succ j => rfl

/-- With a member below, there is an end exactly if a line up to the start of that member is a
closing brace, and the cursor goes above the last of these. If that is below the cursor, the cursor
does not go up from where it was. So if none stands at the cursor or above it, nor at the start of
the next member, there is an end exactly if a closing brace stands between the two. -/
theorem memberEnd_above_next (hKeywords : Buffer.misfit? s.keywords = none)
    (hCursor : s.buffer.position = cursor) (hNext : s.NextMember cursor next)
    (codecs : Registry) (store : Store) :
    let outcome := s.perform codecs store .seekMemberEnd
    let position := outcome.session.buffer.position
    let isLast (brace : Nat) := brace ≤ next ∧ s.buffer.closesAt brace = true ∧
      ∀ j, brace < j → j ≤ next → s.buffer.closesAt j = false
    ∃ found, outcome.answer = .ok (.flag found) ∧
      outcome.session.buffer.lines = s.buffer.lines ∧
      (found = true ↔ ∃ j ≤ next, s.buffer.closesAt j = true) ∧
      (∀ brace, isLast brace → position = (brace - 1 : Nat)) ∧
      (found = false → position = -1) ∧
      (∀ brace, cursor < brace → isLast brace → cursor ≤ position ∧ position + 1 = brace) ∧
      ((∀ j ≤ cursor, s.buffer.closesAt j = false) → s.buffer.closesAt next = false →
        (found = true ↔ ∃ j, cursor < j ∧ j < next ∧ s.buffer.closesAt j = true)) := by
  intro outcome position isLast
  obtain ⟨found, hAnswer, hFound, hBuffer⟩ :=
    seekMemberEnd_of_next hKeywords hCursor hNext codecs store
  have hPosition : position =
      Buffer.endPlace found ((s.buffer.closings (next + 1)).head?.getD 0) :=
    congrArg Buffer.position hBuffer
  have hSome : found = true ↔ ∃ j ≤ next, s.buffer.closesAt j = true := by
    rw [hFound, Ne, Buffer.closings_eq_nil_iff]
    push Not
    simp only [Nat.lt_succ_iff, Bool.not_eq_false]
  have hLast (brace : Nat) (h : isLast brace) : found = true ∧ position = (brace - 1 : Nat) := by
    obtain ⟨hLe, hCloses, hNone⟩ := h
    have hFound := hSome.mpr ⟨brace, hLe, hCloses⟩
    have hHead := Buffer.head?_closings (Nat.lt_succ_of_le hLe) hCloses
      fun j hj hBound => hNone j hj (Nat.le_of_lt_succ hBound)
    refine ⟨hFound, ?_⟩
    rw [hPosition, hFound, hHead]
    rfl
  refine ⟨found, hAnswer, (congrArg Buffer.lines hBuffer :), hSome,
    fun brace h => (hLast brace h).2, fun h => ?_, fun brace hBelow h => ?_,
    fun hAbove hStart => hSome.trans ?_⟩
  · rw [hPosition, h]
    rfl
  · rw [(hLast brace h).2]
    omega
  · constructor
    · rintro ⟨j, hLe, hCloses⟩
      have hPast : cursor < j := by
        by_contra hNot
        cases hCloses.symm.trans (hAbove j (Nat.le_of_not_lt hNot))
      have hBefore : j ≠ next := by
        rintro rfl
        cases hCloses.symm.trans hStart
      exact ⟨j, hPast, Nat.lt_of_le_of_ne hLe hBefore, hCloses⟩
    · rintro ⟨j, -, hBefore, hCloses⟩
      exact ⟨j, Nat.le_of_lt hBefore, hCloses⟩

/-- The brace in front of the next member is found from the line of the one it ends. -/
theorem brace_above_next_member :
    let lines := ["public a".toList, ['{'], "x".toList, ['}'], "public b".toList]
    let s := opened lines
    Buffer.misfit? s.keywords = none ∧ s.buffer.position = (0 : Nat) ∧ s.NextMember 0 4 ∧
      let outcome := s.perform .common (.empty "/") .seekMemberEnd
      outcome.answer = .ok (.flag true) ∧ outcome.session.buffer.position = 2 := by
  intro lines s
  have hNext : s.NextMember 0 4 := by
    have hFirst : ∀ j < 4, 0 < j → s.hasKeyword j = false := by decide +kernel
    exact ⟨by decide +kernel, .inl (by decide), fun j hj hBefore => hFirst j hBefore hj⟩
  obtain ⟨found, hAnswer, -, hFound, hAbove, -⟩ :=
    memberEnd_above_next (s := s) rfl rfl hNext .common (.empty "/")
  have hBrace : s.buffer.closesAt 3 = true := by decide +kernel
  have hFour : s.buffer.closesAt 4 = false := by decide +kernel
  refine ⟨rfl, rfl, hNext, ?_, ?_⟩
  · rw [hAnswer, hFound.mpr ⟨3, by decide, hBrace⟩]
  · refine hAbove 3 ⟨by decide, hBrace, fun j hj hLe => ?_⟩
    obtain rfl : j = 4 := by omega
    exact hFour

/-- From a member without a brace the search leads into the one above it: no closing brace stands
between the cursor and the next member, and there is an end, above the cursor. -/
theorem braceless_member_ended_above :
    let lines := ["void f()".toList, ['{'], ['}'], "public int a;".toList,
      "public int b;".toList]
    let s := ((opened lines).perform .common (.empty "/") (.jump 3)).session
    (ofLines bare lines .bare).1 = .ok (opened lines) ∧ s.buffer.position = 3 ∧
      s.NextMember 3 4 ∧ (∀ j, 3 < j → j < 4 → s.buffer.closesAt j = false) ∧
      let outcome := s.perform .common (.empty "/") .seekMemberEnd
      outcome.answer = .ok (.flag true) ∧ outcome.session.buffer.position = 1 := by
  intro lines s
  have hNext : s.NextMember 3 4 := ⟨by decide +kernel, .inl (by decide), fun j _ _ => by omega⟩
  have hBraces : s.buffer.closings 5 = [2] := by decide +kernel
  obtain ⟨found, hAnswer, hFound, hBuffer⟩ :=
    seekMemberEnd_of_next (s := s) rfl rfl hNext .common (.empty "/")
  rw [hBraces] at hFound hBuffer
  have hSome := hFound.mpr (List.cons_ne_nil _ _)
  refine ⟨ofLines_bare _, rfl, hNext, fun j _ _ => by omega, ?_, ?_⟩
  · rw [hAnswer, hSome]
  · rw [hBuffer, hSome]
    rfl

end Sightline.Session
