import Sightline.Proofs.Mask.Contract
import Sightline.Proofs.Session.HiddenText

/-! Text and view in step. Opening a session refuses a masker's views exactly when
they do not fit the lines; from then on no operation can misalign a line, or show
in a view anything but the text and the filler. -/
namespace Sightline

namespace Buffer

/-- Every character of a view is the one of the text or the filler. -/
def Veiled (b : Buffer) : Prop := ∀ l ∈ b.lines, Mask.Veils l.text l.view

/-- A buffer is veiled when it is aligned and the filler alone hides anything. -/
theorem veiled_iff (b : Buffer) :
    b.Veiled ↔ b.Aligned ∧ ∀ p ∈ hiddenColumns b.lines, p.2 = Mask.filler := by
  simp only [Veiled, Line.veils_iff, Aligned, hiddenColumns, List.mem_flatMap]
  refine ⟨fun h => ⟨fun l hl => (h l hl).1, ?_⟩, fun h l hl => ⟨h.1 l hl, fun p hp => ?_⟩⟩
  · rintro p ⟨l, hl, hp⟩
    exact (h l hl).2 p hp
  · exact h.2 p ⟨l, hl, hp⟩

end Buffer

namespace Masker

/-- A masker makes views of the texts, and they fit. -/
def Suits (masker : Masker) (texts : List Text) : Prop :=
  ∃ views, masker.mask texts = .ok views ∧ Mask.Fits texts views

/-- A masker makes views of the texts, and they do not fit. -/
def Misfits (masker : Masker) (texts : List Text) : Prop :=
  ∃ views, masker.mask texts = .ok views ∧ ¬Mask.Fits texts views

end Masker

namespace Session

/-- The masker and the texts that opening a session comes to mask, unless it fails
before that: over the words that start a member, the file, or the delimiters. -/
def toMask? (w : Surroundings) (o : Opening) : Option (Masker × List Text) :=
  let path := o.path.map Path.shorten
  let encoding := (Setting.lookup o.settings "io" "encoding").1
  let keywords := (Setting.lookup o.settings "navigation" "member_keywords").1
  match keywords.members?, (startLines w path encoding o).1, (startMasker w path o).1 with
  | some _, .ok (texts, _), .ok masker => some (masker, texts)
  | _, _, _ => none

/-- Lines are refused for their alignment exactly when the views do not fit. -/
theorem build_alignment_iff (masker : Masker) (texts : List Text) :
    (∃ fault, build masker texts = .error (.alignment fault)) ↔ masker.Misfits texts := by
  cases hMask : masker.mask texts with
  | error fault => simp [build, Masker.Misfits, hMask]
  | ok views =>
      have hCheck := Mask.alignmentFault?_eq_none_iff texts views
      cases hFault : Mask.alignmentFault? texts views with
      | none => simp [build, Masker.Misfits, hMask, hFault, hCheck.mp hFault]
      | some fault =>
          have hNot : ¬Mask.Fits texts views := by simp [← hCheck, hFault]
          simp [build, Masker.Misfits, hMask, hFault, hNot]

/-- Lines are built exactly of texts and views that fit them, side by side. -/
theorem build_eq_ok_iff (masker : Masker) (texts : List Text) (lines : List Line) :
    build masker texts = .ok lines ↔ ∃ views, masker.mask texts = .ok views ∧
      Mask.Fits texts views ∧ texts.zipWith Line.mk views = lines := by
  cases hMask : masker.mask texts with
  | error fault => simp [build, hMask]
  | ok views =>
      have hCheck := Mask.alignmentFault?_eq_none_iff texts views
      cases hFault : Mask.alignmentFault? texts views with
      | none => simp [build, hMask, hFault, hCheck.mp hFault]
      | some fault =>
          have hNot : ¬Mask.Fits texts views := by simp [← hCheck, hFault]
          simp [build, hMask, hFault, hNot]

theorem zipWith_fits {texts views : List Text} (h : Mask.Fits texts views) :
    (texts.zipWith Line.mk views).map Line.text = texts ∧
      (texts.zipWith Line.mk views).map Line.view = views ∧
      ∀ l ∈ texts.zipWith Line.mk views, l.Aligned := by
  induction h with
  | nil => simp
  | cons hLine _ ih =>
      obtain ⟨hTexts, hViews, hAligned⟩ := ih
      refine ⟨by simp [hTexts], by simp [hViews], ?_⟩
      exact List.forall_mem_cons.mpr ⟨hLine, hAligned⟩

/-- No views have been made yet when the lines to start with cannot be read. -/
theorem startLines_ne_alignment {w : Surroundings} {path : Option String} {encoding : Value}
    {o : Opening} {fault : SessionFault} {events : List Event}
    (h : startLines w path encoding o = (.error fault, events)) (reason : AlignmentFault) :
    fault ≠ .alignment reason := by
  rintro rfl
  simp only [startLines] at h
  split at h
  · cases h
  · split at h
    · cases h
    · split at h
      · cases h
      · split at h <;> cases h

/-- Opening a session either comes to mask some texts, and then fails for their
views alone, or it fails before that and not for any view. -/
theorem start_cases (w : Surroundings) (o : Opening) :
    (∃ masker texts encoding keywords, toMask? w o = some (masker, texts) ∧
      (start w o).1 = (build masker texts).map fun lines =>
        ⟨.ofLines lines, o.path.map Path.shorten, encoding, masker, keywords⟩) ∨
    (toMask? w o = none ∧
      ∃ fault, (start w o).1 = .error fault ∧ ∀ reason, fault ≠ .alignment reason) := by
  rcases hEncoding : Setting.lookup o.settings "io" "encoding" with ⟨encoding, encodingNotes⟩
  rcases hKeywords : Setting.lookup o.settings "navigation" "member_keywords" with
    ⟨keywords, keywordNotes⟩
  simp only [start, toMask?, hEncoding, hKeywords]
  cases keywords.members? with
  | none => exact Or.inr ⟨rfl, _, rfl, nofun⟩
  | some words =>
      rcases hLines : startLines w (o.path.map Path.shorten) encoding o with ⟨lines, events⟩
      cases lines with
      | error fault => exact Or.inr ⟨rfl, fault, rfl, startLines_ne_alignment hLines⟩
      | ok found =>
          obtain ⟨texts, found⟩ := found
          rcases startMasker w (o.path.map Path.shorten) o with ⟨masker, more⟩
          cases masker with
          | error fault => exact Or.inr ⟨rfl, _, rfl, nofun⟩
          | ok masker =>
              refine Or.inl ⟨masker, texts, found, words, rfl, ?_⟩
              dsimp only
              cases build masker texts <;> rfl

/-- A session that comes to mask some texts is opened on the lines built of them. -/
theorem start_of_toMask?_some {w : Surroundings} {o : Opening} {masker : Masker}
    {texts : List Text} (h : toMask? w o = some (masker, texts)) : ∃ encoding keywords,
      (start w o).1 = (build masker texts).map fun lines =>
        ⟨.ofLines lines, o.path.map Path.shorten, encoding, masker, keywords⟩ := by
  rcases start_cases w o with ⟨masker', texts', encoding, keywords, hSame, hStart⟩ | ⟨hNone, _⟩
  · cases h.symm.trans hSame
    exact ⟨encoding, keywords, hStart⟩
  · cases h.symm.trans hNone

theorem start_of_toMask?_none {w : Surroundings} {o : Opening} (h : toMask? w o = none) :
    ∃ fault, (start w o).1 = .error fault ∧ ∀ reason, fault ≠ .alignment reason := by
  rcases start_cases w o with ⟨masker, texts, encoding, keywords, hSome, _⟩ | ⟨_, hFault⟩
  · cases h.symm.trans hSome
  · exact hFault

/-- Opening a session on given lines: no file is read, and no path is kept. -/
def Opening.onLines (o : Opening) : Opening := { o with path := none, reading := false }

/-- A session on given lines starts without any. -/
theorem eq_nil_of_toMask?_onLines {w : Surroundings} {o : Opening} {masker : Masker}
    {texts : List Text} (h : toMask? w o.onLines = some (masker, texts)) : texts = [] := by
  simp only [toMask?, startLines, Opening.onLines, Bool.not_false, if_true] at h
  split at h
  next hLines _ =>
    cases hLines
    cases h
    rfl
  · cases h

/-- The buffer of a session is what some texts and their views make, line by line. -/
structure Shows (s : Session) (texts views : List Text) : Prop where
  texts : s.buffer.texts = texts
  views : s.buffer.views = views
  aligned : s.buffer.Aligned

theorem shows_zipWith {s : Session} {texts views : List Text} (h : Mask.Fits texts views)
    (hLines : s.buffer.lines = texts.zipWith Line.mk views) : s.Shows texts views := by
  obtain ⟨hTexts, hViews, hAligned⟩ := zipWith_fits h
  rw [← hLines] at hTexts hViews hAligned
  exact ⟨hTexts, hViews, hAligned⟩

/-- An opening that comes to mask some texts is refused for their alignment exactly
when the views do not fit, and opens on views that do. -/
theorem start_alignment {w : Surroundings} {o : Opening} {masker : Masker} {texts : List Text}
    (h : toMask? w o = some (masker, texts)) :
    ((∃ fault, (start w o).1 = .error (.alignment fault)) ↔ masker.Misfits texts) ∧
      ∀ views, masker.mask texts = .ok views → Mask.Fits texts views →
        ∃ s, (start w o).1 = .ok s ∧ s.masker = masker ∧ s.Shows texts views := by
  obtain ⟨encoding, keywords, hStart⟩ := start_of_toMask?_some h
  refine ⟨?_, fun views hMask hFits => ?_⟩
  · rw [← build_alignment_iff, hStart]
    cases build masker texts <;> simp [Except.map]
  · rw [(build_eq_ok_iff _ _ _).mpr ⟨views, hMask, hFits, rfl⟩] at hStart
    exact ⟨_, hStart, rfl, shows_zipWith hFits rfl⟩

/-- An opening succeeds on views that fit only. -/
theorem suits_of_start {w : Surroundings} {o : Opening} {masker : Masker} {texts : List Text}
    {s : Session} (h : toMask? w o = some (masker, texts)) (hStart : (start w o).1 = .ok s) :
    masker.Suits texts := by
  obtain ⟨encoding, keywords, hEq⟩ := start_of_toMask?_some h
  rw [hStart] at hEq
  cases hBuild : build masker texts with
  | error fault => simp [hBuild, Except.map] at hEq
  | ok lines =>
      obtain ⟨views, hMask, hFits, _⟩ := (build_eq_ok_iff _ _ _).mp hBuild
      exact ⟨views, hMask, hFits⟩

/-- No view is made in an opening that does not come to mask its texts. -/
theorem start_ne_alignment {w : Surroundings} {o : Opening} (h : toMask? w o = none)
    (reason : AlignmentFault) : (start w o).1 ≠ .error (.alignment reason) := by
  obtain ⟨fault, hStart, hOther⟩ := start_of_toMask?_none h
  rw [hStart]
  exact fun hFault => hOther reason (Except.error.inj hFault)

/-- Given lines are masked once a session without lines is open. -/
theorem ofLines_eq (w : Surroundings) (given : List Text) (o : Opening) :
    (ofLines w given o).1 = (start w o.onLines).1.bind fun s =>
      (build s.masker given).map fun lines => { s with buffer := .ofLines lines } := by
  rw [ofLines, Opening.onLines]
  rcases start w { o with path := none, reading := false } with ⟨⟨fault⟩ | ⟨s⟩, events⟩
  · rfl
  · dsimp only [Except.bind]
    cases build s.masker given <;> rfl

/-- An opening on given lines is refused for their alignment exactly when the views
of no lines do not fit, or else those of the given lines. -/
theorem ofLines_alignment {w : Surroundings} {o : Opening} {masker : Masker} (given : List Text)
    (h : toMask? w o.onLines = some (masker, [])) :
    ((∃ fault, (ofLines w given o).1 = .error (.alignment fault)) ↔
        masker.Misfits [] ∨ masker.Suits [] ∧ masker.Misfits given) ∧
      ∀ views, masker.Suits [] → masker.mask given = .ok views → Mask.Fits given views →
        ∃ s, (ofLines w given o).1 = .ok s ∧ s.masker = masker ∧ s.Shows given views := by
  obtain ⟨hRefused, hOpened⟩ := start_alignment h
  rw [ofLines_eq]
  by_cases hNone : masker.Suits []
  · obtain ⟨empty, hMask, hFits⟩ := hNone
    obtain ⟨s, hStart, rfl, _⟩ := hOpened empty hMask hFits
    have hFitting : ¬s.masker.Misfits [] := by simp [← hRefused, hStart]
    simp only [hStart, Except.bind]
    refine ⟨?_, fun views _ hViews hFit => ?_⟩
    · rw [or_iff_right hFitting, and_iff_right ⟨empty, hMask, hFits⟩, ← build_alignment_iff]
      cases build s.masker given <;> simp [Except.map]
    · rw [(build_eq_ok_iff _ _ _).mpr ⟨views, hViews, hFit, rfl⟩]
      exact ⟨_, rfl, rfl, shows_zipWith hFit rfl⟩
  · refine ⟨?_, fun views hSuits => absurd hSuits hNone⟩
    have hClosed : ∀ s, (start w o.onLines).1 ≠ .ok s := fun s hStart =>
      hNone (suits_of_start h hStart)
    simp only [hNone, false_and, or_false, ← hRefused]
    cases hStart : (start w o.onLines).1 with
    | error fault => rfl
    | ok s => exact absurd hStart (hClosed s)

theorem ofLines_ne_alignment {w : Surroundings} {o : Opening} (given : List Text)
    (h : toMask? w o.onLines = none) (reason : AlignmentFault) :
    (ofLines w given o).1 ≠ .error (.alignment reason) := by
  obtain ⟨fault, hStart, hOther⟩ := start_of_toMask?_none h
  rw [ofLines_eq, hStart]
  exact fun hFault => hOther reason (Except.error.inj hFault)

/-- An opening, on a file or on given lines, is refused for the alignment exactly
when views are made that do not fit, and gives aligned lines else. No run of
operations misaligns them, or shows anything but the text and the filler in views
that show nothing else at first. -/
theorem alignment_of_opening_and_run (w : Surroundings) (o : Opening) (given : List Text) :
    (∀ masker texts, toMask? w o = some (masker, texts) →
      ((∃ fault, (start w o).1 = .error (.alignment fault)) ↔ masker.Misfits texts) ∧
      ∀ views, masker.mask texts = .ok views → Mask.Fits texts views →
        ∃ s, (start w o).1 = .ok s ∧ s.masker = masker ∧ s.Shows texts views) ∧
    (∀ masker texts, toMask? w o.onLines = some (masker, texts) →
      ((∃ fault, (ofLines w given o).1 = .error (.alignment fault)) ↔
        masker.Misfits [] ∨ masker.Suits [] ∧ masker.Misfits given) ∧
      ∀ views, masker.Suits [] → masker.mask given = .ok views → Mask.Fits given views →
        ∃ s, (ofLines w given o).1 = .ok s ∧ s.masker = masker ∧ s.Shows given views) ∧
    (∀ fault, toMask? w o = none → (start w o).1 ≠ .error (.alignment fault)) ∧
    (∀ fault, toMask? w o.onLines = none → (ofLines w given o).1 ≠ .error (.alignment fault)) ∧
    ∀ (codecs : Registry) (store : Store) (s : Session) (ops : List Operation), s.buffer.Aligned →
      ∀ outcome ∈ s.performAll codecs store ops, outcome.session.buffer.Aligned ∧
        (s.buffer.Veiled → outcome.session.buffer.Veiled) := by
  refine ⟨fun masker texts h => start_alignment h, fun masker texts h => ?_,
    fun fault h => start_ne_alignment h fault,
    fun fault h => ofLines_ne_alignment given h fault, ?_⟩
  · obtain rfl := eq_nil_of_toMask?_onLines h
    exact ofLines_alignment given h
  · intro codecs store s ops hAligned outcome hMem
    obtain ⟨hKept, hHidden⟩ := performAll_keeps codecs store s ops hAligned outcome hMem
    refine ⟨hKept, fun hVeiled => (Buffer.veiled_iff _).mpr ⟨hKept, ?_⟩⟩
    rw [hHidden]
    exact ((Buffer.veiled_iff _).mp hVeiled).2

/-- Surroundings without files. -/
def bare : Surroundings :=
  ⟨.empty "/", ⟨.common, fun _ => ⟨none, none⟩, TextFile.stringBound⟩, fun _ => none⟩

/-- A masker that returns no views is refused for the one line of a session. -/
theorem no_views_of_line_refused :
    ∃ fault, (ofLines bare [['x']]
      ⟨none, .null, false, some ⟨"none", fun _ => .ok []⟩, []⟩).1 = .error (.alignment fault) := by
  refine (((alignment_of_opening_and_run _ _ _).2.1 ⟨"none", fun _ => .ok []⟩ [] rfl).1).mpr ?_
  exact Or.inr ⟨⟨[], rfl, .nil⟩, [], rfl, nofun⟩

end Session

end Sightline
