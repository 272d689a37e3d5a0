import Sightline.Proofs.Mask.Stretch

/-! Views, scanned again. What hides a character leaves a filler behind, and what is
kept is kept with its quotes around it; so a scanner that reads a view never meets a
comment, goes in and out of the same literals, and writes the view as it is. -/
namespace Sightline.Mask

namespace Place
variable {ds : DelimiterSet} {place : Place} {c : Char} {next seen : Option Char}

/-- Where the scanner stands in a view, when it stood at a place in the line. Nothing
is left of a comment but code, and nothing of an escape but the literal around it. -/
def inView : Place → Place
  | literal mark => literal mark
  | escape mark => literal mark
  | _ => code

theorem inView_atStart (inBlock : Bool) : (atStart inBlock).inView = code := by
  cases inBlock <;> rfl

theorem isOpen_inView (place : Place) : place.inView.isOpen = false := by
  cases place <;> rfl

/-- A hidden character takes the scanner nowhere that the view would tell. -/
theorem inView_of_hidden (hHidden : (place.step ds c next).1 = true) :
    (place.step ds c next).2.inView = place.inView := by
  cases place with
  | code =>
      simp only [step] at hHidden ⊢
      split_ifs at hHidden ⊢ <;> rfl
  | block =>
      simp only [step]
      split_ifs <;> rfl
  | literal mark =>
      simp only [step] at hHidden ⊢
      split_ifs at hHidden ⊢ <;> rfl
  | remark | opener | closer | escape => rfl

/-- A filler in a view leaves the scanner where it stands. -/
theorem step_filler (hSound : place.Sound) (seen : Option Char) :
    (place.inView.step ds filler seen).2 = place.inView := by
  have hLiteral (mark : Char) (h : mark = '"' ∨ mark = '\'') :
      ((literal mark).step ds filler seen).2 = literal mark := by
    have hMark : filler ≠ mark := by
      rcases h with rfl | rfl <;> decide
    simp [step, hMark, show filler ≠ '\\' by decide]
  have hCode : (code.step ds filler seen).2 = code := by
    rw [step_code_of_not_mem_marks (by decide)]
  cases place with
  | literal mark => exact hLiteral mark hSound
  | escape mark => exact hLiteral mark hSound
  | code | remark | opener | block | closer => exact hCode

/-- A character is not kept in code where it opens a comment. -/
theorem opens_nothing_of_kept (hKept : (code.step ds c next).1 = false) :
    ¬(ds.lineComment ∧ c = '/' ∧ next = some '/') ∧
      ¬(ds.blockComment ∧ c = '/' ∧ next = some '*') := by
  constructor
  · intro hRemark
    simp [step, hRemark] at hKept
  · intro hOpener
    simp [step, hOpener] at hKept

/-- A character that is kept is kept again, as no mark begins with it in the view that
did not begin with it in the line. -/
theorem step_of_kept (hKept : (place.step ds c next).1 = false)
    (hSeen : seen = next ∨ seen = some filler) :
    place.inView.step ds c seen = (false, (place.step ds c next).2.inView) := by
  have hNext {d : Char} (hd : d ≠ filler) (h : seen = some d) : next = some d := by
    rcases hSeen with hSame | hFiller
    · exact hSame.symm.trans h
    · exact absurd (Option.some.inj (h.symm.trans hFiller)) hd
  cases place with
  | code =>
      obtain ⟨hRemark, hOpener⟩ := opens_nothing_of_kept hKept
      have hRemarkSeen : ¬(ds.lineComment ∧ c = '/' ∧ seen = some '/') := fun h =>
        hRemark ⟨h.1, h.2.1, hNext (by decide) h.2.2⟩
      have hOpenerSeen : ¬(ds.blockComment ∧ c = '/' ∧ seen = some '*') := fun h =>
        hOpener ⟨h.1, h.2.1, hNext (by decide) h.2.2⟩
      simp only [inView, step, if_neg hRemark, if_neg hOpener, if_neg hRemarkSeen,
        if_neg hOpenerSeen]
      split_ifs <;> rfl
  | literal mark =>
      simp only [inView, step] at hKept ⊢
      split_ifs at hKept ⊢
      rfl
  | remark => cases hKept
  | opener => cases hKept
  | block => cases hKept
  | closer => cases hKept
  | escape mark => cases hKept

/-- A slash is kept in code only, as it closes no literal. -/
theorem eq_code_of_kept_slash (hSound : place.Sound)
    (hKept : (place.step ds '/' next).1 = false) : place = code := by
  cases place with
  | code => rfl
  | literal mark =>
      have hMark : '/' ≠ mark := by
        rcases hSound with rfl | rfl <;> decide
      simp only [step, if_neg hMark] at hKept
      split_ifs at hKept
  | remark | opener | block | closer | escape => cases hKept

end Place

variable {ds : DelimiterSet} {place : Place}

/-- What the view shows behind a character stands there in the line, or is a filler. -/
theorem head?_walk (ds : DelimiterSet) (place : Place) (s : Text) :
    (walk ds place s).1.head? = s.head? ∨ (walk ds place s).1.head? = some filler := by
  cases s with
  | nil => exact Or.inl rfl
  | cons c rest =>
      rw [walk_cons, List.head?_cons, List.head?_cons]
      split
      · exact Or.inr rfl
      · exact Or.inl rfl

/-- The scanner writes a view as it is, and no comment is open behind it. -/
theorem walk_walk (ds : DelimiterSet) {place : Place} (hSound : place.Sound) (s : Text) :
    walk ds place.inView (walk ds place s).1 = ((walk ds place s).1, false) := by
  induction s generalizing place with
  | nil => exact Prod.ext rfl place.isOpen_inView
  | cons c rest ih =>
      have hAfter : (place.step ds c rest.head?).2.Sound := Place.sound_step hSound
      have hRest := ih hAfter
      rw [walk_cons ds place]
      cases hStep : (place.step ds c rest.head?).1 with
      | true =>
          rw [Place.inView_of_hidden hStep] at hRest
          simp only [if_true, walk_cons ds place.inView, Place.step_filler hSound, hRest, ite_self]
      | false =>
          have hKept := Place.step_of_kept hStep
            (head?_walk ds (place.step ds c rest.head?).2 rest)
          simp only [Bool.false_eq_true, if_false, walk_cons ds place.inView, hKept, hRest]

/-- Views are scanned to themselves, from code on, wherever their lines started. -/
theorem walkLines_walkLines (ds : DelimiterSet) (inBlock : Bool) (lines : List Text) :
    walkLines ds false (walkLines ds inBlock lines) = walkLines ds inBlock lines := by
  induction lines generalizing inBlock with
  | nil => rfl
  | cons line lines ih =>
      have hLine := walk_walk ds (Place.sound_atStart inBlock).1 line
      rw [Place.inView_atStart] at hLine
      simp only [walkLines]
      rw [show Place.atStart false = .code from rfl, hLine]
      exact congrArg _ (ih _)

/-- Where a slash and a character that is no filler stand in a view, the slash was kept
with that character behind it. -/
theorem kept_of_pair_prefix {b c : Char} (hb : b ≠ filler) {rest : Text}
    (h : ['/', b] <+: (walk ds place (c :: rest)).1) :
    c = '/' ∧ rest.head? = some b ∧ (place.step ds c rest.head?).1 = false := by
  rw [walk_cons, ← List.isPrefixOf_iff_prefix, isPrefixOf_pair_iff] at h
  obtain ⟨hFirst, hSecond⟩ := h
  cases hStep : (place.step ds c rest.head?).1 with
  | true =>
      rw [hStep] at hFirst
      exact absurd hFirst (show filler ≠ '/' by decide)
  | false =>
      rw [hStep] at hFirst
      refine ⟨hFirst, ?_, rfl⟩
      rcases head?_walk ds (place.step ds c rest.head?).2 rest with hSame | hFiller
      · exact hSame.symm.trans hSecond
      · exact absurd (Option.some.inj (hSecond.symm.trans hFiller)) hb

/-- What opens a comment in code stands nowhere in a view. -/
theorem not_pair_infix_walk {b : Char} (hb : b ≠ filler)
    (hOpens : (Place.code.step ds '/' (some b)).1 = true) (hSound : place.Sound) (s : Text) :
    ¬['/', b] <:+: (walk ds place s).1 := by
  induction s generalizing place with
  | nil => simp [walk]
  | cons c rest ih =>
      intro hInfix
      rcases List.infix_cons_iff.mp hInfix with hPrefix | hRest
      · obtain ⟨rfl, hNext, hKept⟩ := kept_of_pair_prefix hb hPrefix
        obtain rfl := Place.eq_code_of_kept_slash hSound hKept
        rw [hNext, hOpens] at hKept
        cases hKept
      · exact ih (Place.sound_step hSound) hRest

/-- No view has the mark of a comment that is hidden. -/
theorem not_mark_infix_walkLines (ds : DelimiterSet) (inBlock : Bool) (lines : List Text) :
    ∀ view ∈ walkLines ds inBlock lines,
      (ds.lineComment = true → ¬Delimiter.lineComment.token <:+: view) ∧
        (ds.blockComment = true → ¬Delimiter.blockComment.token <:+: view) := by
  induction lines generalizing inBlock with
  | nil => simp [walkLines]
  | cons line lines ih =>
      refine List.forall_mem_cons.mpr ⟨⟨fun hRemark => ?_, fun hBlock => ?_⟩, ih _⟩
      · exact not_pair_infix_walk (by decide) (by simp [Place.step, hRemark])
          (Place.sound_atStart inBlock).1 line
      · exact not_pair_infix_walk (by decide) (by simp [Place.step, hBlock])
          (Place.sound_atStart inBlock).1 line

end Sightline.Mask
