import Sightline.Proofs.Session.FreshView
import Sightline.Proofs.Session.Opening

/-! What replacing a text takes away. An occurrence has to stand in text and view, and
the view shows a filler for what is hidden; so a hidden column can be replaced only
where the text has a filler itself. Such columns do get replaced: a blank in a
literal or a comment looks the same in both. -/
namespace Sightline
open Mask

/-- The scanner hides a column: it is part of a comment or of what a literal holds. -/
def Mask.Conceals (ds : DelimiterSet) (lines : List Text) (index column : Nat) : Prop :=
  ∃ hidden, (hidesLines ds false lines)[index]? = some hidden ∧ hidden[column]? = some true

/-- In a fresh buffer every line is read as its view from where those in front lead. -/
theorem Buffer.Fresh.readsAs {ds : DelimiterSet} {b : Buffer} (h : b.Fresh ds) {index : Nat}
    {line : Line} (hLine : b.lines[index]? = some line) :
    ∃ inBlock, line.ReadsAs ds (.atStart (openAfter ds false (b.texts.take index))) inBlock := by
  have hViews := (walkLines_eq_veil ds false b.texts).symm.trans ((fresh_iff b).mp h)
  have hText : b.texts[index]? = some line.text := by simp [texts, hLine]
  have hView : b.views[index]? = some line.view := by simp [views, hLine]
  have hHere := congrArg (·[index]?) hViews
  simp only [List.getElem?_zipWith, getElem?_hidesLines, hText, hView, Option.map_some,
    Option.some.injEq] at hHere
  refine ⟨(walk ds (.atStart (openAfter ds false (b.texts.take index))) line.text).2, ?_⟩
  rw [Line.ReadsAs, walk_eq, hHere]

/-- The columns of an occurrence in a fresh line: a hidden one has a filler, and plain
text that is not just fillers has no hidden one. -/
theorem Line.ReadsAs.hides_occurrence {ds : DelimiterSet} {place : Place} {inBlock : Bool}
    {line : Line} (h : line.ReadsAs ds place inBlock) (hSound : place.Sound)
    (hWhole : place.Whole) {old : Text} {offset : Nat} (hOffset : offset ∈ line.occurrences old)
    {k : Nat} (hk : k < old.length)
    (hHidden : (hides ds none place line.text)[offset + k]? = some true) :
    line.text[offset + k]? = some filler ∧ old[k]? = some filler ∧
      ¬(Plain old ∧ ∃ c ∈ old, c ≠ filler) := by
  obtain ⟨front, back, hFront, rfl, rfl⟩ :=
    (rewrites_replace line old []).exists_piece hOffset
  rw [Nat.zero_add] at hHidden ⊢
  rw [hides_piece front back old hk] at hHidden
  obtain ⟨-, hPiece⟩ := (readsAs_append hFront _).mp h
  obtain ⟨hShown, -⟩ := (readsAs_append (aligned_plain old) back).mp hPiece
  have hFiller := filler_of_veil_eq hShown hHidden (length_hides ..)
  refine ⟨?_, hFiller, fun ⟨hOld, hFull⟩ => ?_⟩
  · rw [text_append, text_append, List.getElem?_append_right (Nat.le_add_right _ _),
      Nat.add_sub_cancel_left]
    exact (List.getElem?_append_left hk).trans hFiller
  · have hSome : old ≠ [] := List.ne_nil_of_length_pos (Nat.zero_lt_of_lt hk)
    have hCalm : Calm (plain old ++ back).text.head? := by
      simpa [plain, List.head?_append] using hOld.calm_head? hSome back.text.head?
    have hCode := eq_code_of_shown (sound_reach front.text hSound)
      (whole_reach front.text hCalm hWhole) hOld hFull hShown
    rw [hCode, (code_of_plain ds _ hOld).1, List.getElem?_replicate, if_pos hk] at hHidden
    cases hHidden

namespace Session

/-- Replacing puts the new text at the occurrences of the old one on the cursor's line. -/
theorem texts_replaceText {b : Buffer} {line : Line} (h : b.current? = some line)
    (old new : Text) : (b.replaceText old new).buffer.texts =
      b.texts.set b.position.toNat
        (line.text.substituteAt old.length new (line.occurrences old)) := by
  obtain ⟨-, hAt⟩ := (Buffer.current?_eq_some_iff b line).mp h
  obtain ⟨hLt, rfl⟩ := List.getElem?_eq_some_iff.mp hAt
  have hSame : b.texts.set b.position.toNat b.lines[b.position.toNat].text = b.texts := by
    rw [Buffer.texts, ← List.map_set, List.set_getElem_self]
  simp only [Buffer.replaceText, h]
  split_ifs with hOld hNone
  · rw [List.isEmpty_iff.mp hOld]
    exact hSame.symm
  · rw [List.isEmpty_iff.mp hNone]
    exact hSame.symm
  · simp [Buffer.texts, List.map_set, Line.replace]

/-- On a session opened on given lines, with the cursor on one of them, replacing a text
puts the new one at its occurrences. A column there that the scanner hides has a filler
in the line and in the old text; so there is none if the old text has no filler, or if
it is plain and more than fillers. -/
theorem replaced_hidden_columns_are_fillers {w : Surroundings} {given : List Text} {o : Opening}
    {ds : DelimiterSet} {s : Session} (hOpened : (ofLines w given o).1 = .ok s)
    (hMasker : s.masker = .ofDelimiters ds) {position : Int} {line : Line}
    (hCursor : Buffer.current? ⟨s.buffer.lines, position⟩ = some line)
    (codecs : Registry) (store : Store) (old new : Text) :
    let here : Session := { s with buffer := ⟨s.buffer.lines, position⟩ }
    let offsets := line.occurrences old
    (here.perform codecs store (.replaceText old new)).session.buffer.texts =
        given.set position.toNat (line.text.substituteAt old.length new offsets) ∧
      (∀ offset ∈ offsets, ∀ k < old.length,
        Conceals ds given position.toNat (offset + k) →
          line.text[offset + k]? = some filler ∧ old[k]? = some filler) ∧
      (filler ∉ old ∨ (Plain old ∧ ∃ c ∈ old, c ≠ filler) →
        ∀ offset ∈ offsets, ∀ k < old.length,
          ¬Conceals ds given position.toNat (offset + k)) := by
  intro here offsets
  obtain ⟨views, hMask, hShows⟩ := shows_of_ofLines hOpened
  have hFresh : s.buffer.Fresh ds := by
    rw [Buffer.Fresh, ← hMasker, hShows.texts, hShows.views, hMask]
  obtain ⟨-, hLine⟩ := (Buffer.current?_eq_some_iff _ line).mp hCursor
  obtain ⟨inBlock, hReads⟩ := hFresh.readsAs hLine
  have hGiven : given[position.toNat]? = some line.text := by
    rw [← hShows.texts]
    simp [Buffer.texts, hLine]
  rw [hShows.texts] at hReads
  have hColumns (offset : Nat) (hOffset : offset ∈ offsets) (k : Nat) (hk : k < old.length)
      (hConceals : Conceals ds given position.toNat (offset + k)) :
      line.text[offset + k]? = some filler ∧ old[k]? = some filler ∧
        ¬(Plain old ∧ ∃ c ∈ old, c ≠ filler) := by
    obtain ⟨hidden, hHidden, hColumn⟩ := hConceals
    rw [getElem?_hidesLines, hGiven, Option.map_some, Option.some.injEq] at hHidden
    subst hHidden
    obtain ⟨hSound, hWhole⟩ := Place.sound_atStart (openAfter ds false (given.take position.toNat))
    exact hReads.hides_occurrence hSound hWhole hOffset hk hColumn
  refine ⟨?_, fun offset hOffset k hk hConceals => ?_, fun hOld offset hOffset k hk hConceals => ?_⟩
  · rw [← hShows.texts]
    exact texts_replaceText hCursor old new
  · obtain ⟨hText, hFiller, -⟩ := hColumns offset hOffset k hk hConceals
    exact ⟨hText, hFiller⟩
  · obtain ⟨-, hFiller, hNot⟩ := hColumns offset hOffset k hk hConceals
    exact hOld.elim (fun h => h (List.mem_of_getElem? hFiller)) hNot

/-- A session on one line, with the cursor on it. -/
theorem exists_ofLines_bare (text : Text) : ∃ s,
    (ofLines Session.bare [text] Opening.bare).1 = .ok s ∧ s.masker = .ofDelimiters .standard ∧
      Buffer.current? ⟨s.buffer.lines, 0⟩ = some ⟨text, (walk .standard .code text).1⟩ := by
  have hMask : toMask? Session.bare Opening.bare.onLines = some (.ofDelimiters .standard, []) :=
    rfl
  obtain ⟨s, hOpened, hMasker, hShows⟩ := exists_ofLines [text] hMask
  refine ⟨s, hOpened, hMasker, ?_⟩
  rw [hShows.lines_eq]
  rfl

/-- A word is replaced in code and left alone in the comment behind it. -/
theorem word_replaced_outside_comment : ∃ s line,
    (ofLines Session.bare ["old(); // old".toList] Opening.bare).1 = .ok s ∧
      Buffer.current? ⟨s.buffer.lines, 0⟩ = some line ∧ line.occurrences "old".toList = [0] ∧
      (({ s with buffer := ⟨s.buffer.lines, 0⟩ } : Session).perform .common (.empty "/")
        (.replaceText "old".toList "new".toList)).session.buffer.texts =
          ["new(); // old".toList] ∧
      ∀ k < 3, ¬Conceals .standard ["old(); // old".toList] 0 (0 + k) := by
  obtain ⟨s, hOpened, hMasker, hCursor⟩ := exists_ofLines_bare "old(); // old".toList
  obtain ⟨hTexts, -, hNone⟩ := replaced_hidden_columns_are_fillers hOpened hMasker hCursor
    .common (.empty "/") "old".toList "new".toList
  refine ⟨s, _, hOpened, hCursor, by decide +kernel, hTexts.trans (by decide +kernel), ?_⟩
  exact hNone (Or.inl (by decide)) 0 (by decide +kernel)

/-- A blank in a literal is replaced, though the scanner hides it. -/
theorem blank_in_literal_replaced : ∃ s line,
    (ofLines Session.bare ["\"a b\"".toList] Opening.bare).1 = .ok s ∧
      s.masker = .ofDelimiters .standard ∧
      Buffer.current? ⟨s.buffer.lines, 0⟩ = some line ∧ 2 ∈ line.occurrences [' '] ∧
      Conceals .standard ["\"a b\"".toList] 0 2 ∧
      (({ s with buffer := ⟨s.buffer.lines, 0⟩ } : Session).perform .common (.empty "/")
        (.replaceText [' '] ['_'])).session.buffer.texts = ["\"a_b\"".toList] := by
  obtain ⟨s, hOpened, hMasker, hCursor⟩ := exists_ofLines_bare "\"a b\"".toList
  refine ⟨s, _, hOpened, hMasker, hCursor, by decide +kernel, ⟨_, rfl, rfl⟩, ?_⟩
  obtain ⟨views, -, hShows⟩ := shows_of_ofLines hOpened
  rw [perform, afterStep, texts_replaceText hCursor]
  change s.buffer.texts.set 0 _ = _
  rw [hShows.texts]
  decide +kernel

end Session

end Sightline
