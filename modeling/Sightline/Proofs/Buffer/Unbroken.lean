import Sightline.Proofs.Buffer.Journal
import Sightline.Proofs.Text.Newline

/-! Line ends stay out of the lines. An edit puts its own text into a line and nothing
else, and an indentation is copied from a line; so a line end can only come from the
text that an operation is given. -/
namespace Sightline

namespace Text

variable {s new : Text}

theorem Unbroken.insertAt (hs : s.Unbroken) (hNew : new.Unbroken) (offset : Int) :
    (s.insertAt offset new).Unbroken := by
  simp only [Text.insertAt, unbroken_append]
  exact ⟨⟨hs.mono (List.take_subset _ s), hNew⟩, hs.mono (List.drop_subset _ s)⟩

theorem Unbroken.substituteFrom (hs : s.Unbroken) (hNew : new.Unbroken) (width start : Nat)
    (offsets : List Nat) : (Text.substituteFrom width new start offsets s).Unbroken := by
  induction offsets generalizing start s with
  | nil => exact hs
  | cons offset offsets ih =>
      simp only [Text.substituteFrom, unbroken_append]
      exact ⟨⟨hs.mono (List.take_subset _ s), hNew⟩, ih (hs.mono (List.drop_subset _ s)) _⟩

end Text

namespace Buffer

/-- No line of a buffer holds a line end. -/
def Unbroken (b : Buffer) : Prop := ∀ l ∈ b.lines, l.text.Unbroken

variable {b : Buffer} {s : Text}

theorem Unbroken.set (h : b.Unbroken) {l : Line} (hl : l.text.Unbroken) (index : Nat)
    (position : Int) : Unbroken ⟨b.lines.set index l, position⟩ := by
  intro l' hMem
  rcases List.mem_or_eq_of_mem_set hMem with hOld | rfl
  · exact h l' hOld
  · exact hl

theorem Unbroken.current (h : b.Unbroken) {l : Line} (hl : b.current? = some l) :
    l.text.Unbroken :=
  h l (mem_of_line? hl)

theorem Unbroken.copiedIndent (h : b.Unbroken) (following : Bool) (back : Int) :
    (b.copiedIndent following back).Unbroken := by
  intro c hc
  obtain ⟨l, hl, hIndent⟩ := mem_copiedIndent hc
  exact h l hl c (List.takeWhile_subset _ hIndent)

theorem Unbroken.insertLine (h : b.Unbroken) (hs : s.Unbroken) (following : Bool) (back : Int) :
    (b.insertLine s following back).buffer.Unbroken := by
  have hText := (Text.unbroken_append _ _).mpr ⟨h.copiedIndent following back, hs⟩
  intro l hMem
  rcases List.eq_or_mem_of_mem_insertIdx hMem with rfl | hOld
  · exact hText
  · exact h l hOld

theorem Unbroken.insertNewLine (h : b.Unbroken) (hs : s.Unbroken) (following : Bool)
    (back : Int) : (b.insertNewLine s following back).buffer.Unbroken := by
  unfold Buffer.insertNewLine
  split
  · exact h
  · exact h.insertLine hs following back

theorem Unbroken.replaceText (h : b.Unbroken) {new : Text} (hNew : new.Unbroken) (old : Text) :
    (b.replaceText old new).buffer.Unbroken := by
  unfold Buffer.replaceText
  split
  · exact h
  next line hLine =>
    simp only
    split_ifs
    · exact h
    · exact h
    · exact h.set ((h.current hLine).substituteFrom hNew _ _ _) _ _

theorem Unbroken.appendText (h : b.Unbroken) (hs : s.Unbroken) :
    (b.appendText s).buffer.Unbroken := by
  unfold Buffer.appendText
  split
  · exact h
  next line hLine => exact h.set ((Text.unbroken_append _ _).mpr ⟨h.current hLine, hs⟩) _ _

theorem Unbroken.insertBehindBracket (h : b.Unbroken) (hs : s.Unbroken)
    {located opening closing : Text} {step : Step Bool}
    (hStep : b.insertBehindBracket located s opening closing = .ok step) :
    step.buffer.Unbroken := by
  by_cases hEnds : opening.isSuffixOf located = true
  · rcases b.insertBehindBracket_cases s closing hEnds with
      ⟨index, column, target, site, hResult⟩ | ⟨_, records, hRecords, hResult⟩
    · cases hStep.symm.trans hResult
      exact h.set ((h target (List.mem_of_getElem? site.line)).insertAt hs column) _ _
    · cases hStep.symm.trans hResult
      exact h
  · simp [Buffer.insertBehindBracket, hEnds] at hStep

end Buffer

end Sightline
