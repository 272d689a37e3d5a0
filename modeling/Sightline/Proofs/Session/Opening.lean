import Sightline.Proofs.Mask.Stretch
import Sightline.Proofs.Session.Alignment

/-! What an open session shows: the texts it has come to mask, with the views of its
masker. With delimiters for a masker the views fit all texts, so that nothing but the
file can keep such a session from being opened. -/
namespace Sightline.Session
open Mask

/-- An opening comes to mask the texts it starts with, if its settings can be used. -/
theorem toMask?_eq_some_iff {w : Surroundings} {o : Opening} {masker : Masker}
    {texts : List Text} : toMask? w o = some (masker, texts) ↔
      (Setting.lookup o.settings "navigation" "member_keywords").1.members?.isSome ∧
      (∃ encoding, (startLines w (o.path.map Path.shorten)
        (Setting.lookup o.settings "io" "encoding").1 o).1 = .ok (texts, encoding)) ∧
      (startMasker w (o.path.map Path.shorten) o).1 = .ok masker := by
  constructor
  · intro h
    simp only [toMask?] at h
    split at h
    next hWords hLines hMasker =>
      cases h
      exact ⟨by rw [hWords]; rfl, ⟨_, hLines⟩, hMasker⟩
    · cases h
  · rintro ⟨hWords, ⟨encoding, hLines⟩, hMasker⟩
    obtain ⟨words, hWords⟩ := Option.isSome_iff_exists.mp hWords
    simp only [toMask?, hWords, hLines, hMasker]

theorem shows_of_build {s : Session} {texts : List Text} {lines : List Line}
    (h : build s.masker texts = .ok lines) (hLines : s.buffer = .ofLines lines) :
    ∃ views, s.masker.mask texts = .ok views ∧ s.Shows texts views := by
  obtain ⟨views, hMask, hFits, rfl⟩ := (build_eq_ok_iff _ _ _).mp h
  exact ⟨views, hMask, shows_zipWith hFits (congrArg Buffer.lines hLines)⟩

theorem built_of_start {w : Surroundings} {o : Opening} {s : Session}
    (h : (start w o).1 = .ok s) : ∃ texts, toMask? w o = some (s.masker, texts) ∧
      ∃ lines, build s.masker texts = .ok lines ∧ s.buffer = .ofLines lines := by
  cases hToMask : toMask? w o with
  | none =>
      obtain ⟨fault, hFault, -⟩ := start_of_toMask?_none hToMask
      cases h.symm.trans hFault
  | some found =>
      obtain ⟨masker, texts⟩ := found
      obtain ⟨encoding, keywords, hStart⟩ := start_of_toMask?_some hToMask
      rw [hStart] at h
      cases hBuild : build masker texts with
      | error fault => simp [hBuild, Except.map] at h
      | ok lines =>
          simp only [hBuild, Except.map, Except.ok.injEq] at h
          subst h
          exact ⟨texts, rfl, lines, hBuild, rfl⟩

/-- A session on given lines is opened on none, and takes those that are built of them. -/
theorem exists_start_of_ofLines {w : Surroundings} {given : List Text} {o : Opening} {s : Session}
    (h : (ofLines w given o).1 = .ok s) :
    ∃ opened lines, (start w o.onLines).1 = .ok opened ∧ build opened.masker given = .ok lines ∧
      s = { opened with buffer := .ofLines lines } := by
  rw [ofLines_eq] at h
  cases hStart : (start w o.onLines).1 with
  | error fault => simp [hStart, Except.bind] at h
  | ok opened =>
      cases hBuild : build opened.masker given with
      | error fault => simp [hStart, Except.bind, hBuild, Except.map] at h
      | ok lines =>
          simp only [hStart, Except.bind, hBuild, Except.map, Except.ok.injEq] at h
          exact ⟨opened, lines, rfl, hBuild, h.symm⟩

theorem built_of_ofLines {w : Surroundings} {given : List Text} {o : Opening} {s : Session}
    (h : (ofLines w given o).1 = .ok s) :
    ∃ lines, build s.masker given = .ok lines ∧ s.buffer = .ofLines lines := by
  obtain ⟨opened, lines, -, hBuild, rfl⟩ := exists_start_of_ofLines h
  exact ⟨lines, hBuild, rfl⟩

/-- A session that is opened shows the texts it comes to mask, with the views of its
masker. -/
theorem shows_of_start {w : Surroundings} {o : Opening} {s : Session}
    (h : (start w o).1 = .ok s) : ∃ texts, toMask? w o = some (s.masker, texts) ∧
      ∃ views, s.masker.mask texts = .ok views ∧ s.Shows texts views := by
  obtain ⟨texts, hToMask, lines, hBuild, hLines⟩ := built_of_start h
  exact ⟨texts, hToMask, shows_of_build hBuild hLines⟩

/-- A session opened on given lines shows them with the views of its masker. -/
theorem shows_of_ofLines {w : Surroundings} {given : List Text} {o : Opening} {s : Session}
    (h : (ofLines w given o).1 = .ok s) :
    ∃ views, s.masker.mask given = .ok views ∧ s.Shows given views := by
  obtain ⟨lines, hBuild, hLines⟩ := built_of_ofLines h
  exact shows_of_build hBuild hLines

theorem Shows.lines_eq {s : Session} {texts views : List Text} (h : s.Shows texts views) :
    s.buffer.lines = texts.zipWith Line.mk views := by
  rw [← h.texts, ← h.views, Buffer.texts, Buffer.views, List.zipWith_map, List.zipWith_self]
  exact (List.map_id _).symm

theorem mask_ofDelimiters (ds : DelimiterSet) (texts : List Text) :
    (Masker.ofDelimiters ds).mask texts = .ok (walkLines ds false texts) :=
  congrArg Except.ok (scanLines_eq_walkLines ds false texts)

/-- With delimiters for a masker an opening that comes to mask its texts succeeds. -/
theorem exists_start {w : Surroundings} {o : Opening} {ds : DelimiterSet} {texts : List Text}
    (h : toMask? w o = some (.ofDelimiters ds, texts)) :
    ∃ s, (start w o).1 = .ok s ∧ s.Shows texts (walkLines ds false texts) := by
  obtain ⟨s, hStart, -, hShows⟩ :=
    (start_alignment h).2 _ (mask_ofDelimiters ds texts) (fits_walkLines ds false texts)
  exact ⟨s, hStart, hShows⟩

theorem exists_ofLines {w : Surroundings} {o : Opening} {ds : DelimiterSet} (given : List Text)
    (h : toMask? w o.onLines = some (.ofDelimiters ds, [])) :
    ∃ s, (ofLines w given o).1 = .ok s ∧ s.masker = .ofDelimiters ds ∧
      s.Shows given (walkLines ds false given) :=
  (ofLines_alignment given h).2 _ ⟨[], rfl, .nil⟩ (mask_ofDelimiters ds given)
    (fits_walkLines ds false given)

/-- The delimiters that an opening is given, or else those of its settings. -/
def Opening.spec (o : Opening) : Value :=
  match o.delimiters with
  | .null => (Setting.lookup o.settings "masking" "delimiters").1
  | spec => spec

/-- The settings can be used, and they or the opening ask for some delimiters. -/
structure Opening.Delimits (o : Opening) (ds : DelimiterSet) : Prop where
  words : (Setting.lookup o.settings "navigation" "member_keywords").1.members?.isSome
  unmasked : o.masker = none
  engine : o.delimiters = .null →
    Masker.isLexerEngine (Setting.lookup o.settings "masking" "engine").1 = false
  delimiters : DelimiterSet.ofValue o.spec = .ok ds

/-- Delimiters give the same masker for every file. -/
theorem Opening.Delimits.startMasker {o : Opening} {ds : DelimiterSet} (h : o.Delimits ds)
    (w : Surroundings) (path : Option String) :
    (startMasker w path o).1 = .ok (.ofDelimiters ds) := by
  have hSpec : Masker.ofSpec o.spec = .ok (.ofDelimiters ds) := by
    rw [Masker.ofSpec, h.delimiters]
    rfl
  simp only [Session.startMasker, h.unmasked]
  cases hGiven : o.delimiters with
  | null =>
      simp only [Opening.spec, hGiven] at hSpec
      cases path <;> simp [Masker.choose, h.engine hGiven, Masker.ofSettings, hSpec]
  | _ =>
      simp only [Opening.spec, hGiven] at hSpec
      exact hSpec

theorem Opening.Delimits.toMask? {o : Opening} {ds : DelimiterSet} (h : o.Delimits ds)
    {w : Surroundings} {texts : List Text} {encoding : Value}
    (hLines : (startLines w (o.path.map Path.shorten) (Setting.lookup o.settings "io" "encoding").1
      o).1 = .ok (texts, encoding)) : toMask? w o = some (.ofDelimiters ds, texts) :=
  toMask?_eq_some_iff.mpr ⟨h.words, ⟨encoding, hLines⟩, h.startMasker w _⟩

theorem Opening.Delimits.toMask?_onLines {o : Opening} {ds : DelimiterSet} (h : o.Delimits ds)
    (w : Surroundings) : Session.toMask? w o.onLines = some (.ofDelimiters ds, []) := by
  have hLines : o.onLines.Delimits ds := ⟨h.words, h.unmasked, h.engine, h.delimiters⟩
  exact hLines.toMask? rfl

/-- An opening with nothing but the embedded settings. -/
def Opening.bare : Opening := ⟨none, .null, false, none, []⟩

end Sightline.Session
