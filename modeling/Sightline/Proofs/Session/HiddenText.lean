import Sightline.Proofs.Session.Run

/-! What the search view hides is safe from every editing session. The hidden
columns of a buffer, in order, are the same before and after any run of operations
on aligned lines: searches do not touch the lines, and no edit touches a column in
which text and view differ. -/
namespace Sightline

/-- Every line has a view of its own length. -/
def Buffer.Aligned (b : Buffer) : Prop := ∀ l ∈ b.lines, l.Aligned

instance (b : Buffer) : Decidable b.Aligned :=
  inferInstanceAs (Decidable (∀ l ∈ b.lines, l.Aligned))

namespace Journaled
variable {made : Bool} {lines lines' : List Line} {records : List Record}

theorem aligned (h : Journaled lines made lines' records) (hLines : ∀ l ∈ lines, l.Aligned) :
    ∀ l ∈ lines', l.Aligned := by
  cases h with
  | quiet => exact hLines
  | edit e => exact e.aligned_apply hLines

theorem hiddenColumns_eq (h : Journaled lines made lines' records)
    (hLines : ∀ l ∈ lines, l.Aligned) :
    hiddenColumns lines' = hiddenColumns lines := by
  cases h with
  | quiet => rfl
  | edit e => exact e.hiddenColumns_apply hLines

end Journaled

namespace Session

/-- A run on aligned lines keeps them aligned, and keeps what they hide. -/
theorem performAll_keeps (codecs : Registry) (store : Store) (s : Session) (ops : List Operation)
    (h : s.buffer.Aligned) : ∀ outcome ∈ s.performAll codecs store ops,
      outcome.session.buffer.Aligned ∧
        hiddenColumns outcome.session.buffer.lines = hiddenColumns s.buffer.lines := by
  refine forall_performAll (P := fun s' => s'.buffer.Aligned ∧
    hiddenColumns s'.buffer.lines = hiddenColumns s.buffer.lines) ?_ store s ops ⟨h, rfl⟩
  rintro store s' op ⟨hAligned, hHidden⟩
  have hStep := perform_journaled codecs store s' op
  exact ⟨hStep.aligned hAligned, (hStep.hiddenColumns_eq hAligned).trans hHidden⟩

/-- What the views of aligned lines hide is the same, character by character and in
the same order, after every operation of a run. -/
theorem hidden_text_survives (codecs : Registry) (store : Store) (s : Session)
    (ops : List Operation) (hAligned : s.buffer.Aligned) :
    ∀ outcome ∈ s.performAll codecs store ops,
      hiddenColumns outcome.session.buffer.lines = hiddenColumns s.buffer.lines := by
  intro outcome hMem
  exact (performAll_keeps codecs store s ops hAligned outcome hMem).2

/-- A session on one line with a comment at its end. -/
def commented : Session :=
  ⟨.ofLines [⟨"a(b) // a".toList, "a(b)     ".toList⟩], none, .null, .ofDelimiters .standard, []⟩

/-- The comment survives edits in front of it, behind it and in its line. -/
theorem comment_survives : commented.buffer.Aligned ∧
    ∃ outcome ∈ commented.performAll .common (.empty "/")
      [.insertBehindBracket ['a', '('] ['c'] ['('] [')'], .appendText [' ', 'a'],
        .replaceText ['a'] ['b', 'b'], .insertLine ['a'] false 0],
      outcome.session.buffer.texts = ["bb(b)c // a bb".toList, "a".toList] ∧
        hiddenColumns outcome.session.buffer.lines = [('/', ' '), ('/', ' '), ('a', ' ')] := by
  have hAligned : commented.buffer.Aligned := by decide
  refine ⟨hAligned, (commented.performAll _ _ _)[3], List.getElem_mem _, ?_, ?_⟩
  · decide +kernel
  · rw [hidden_text_survives _ _ _ _ hAligned _ (List.getElem_mem _)]
    rfl

end Session

end Sightline
