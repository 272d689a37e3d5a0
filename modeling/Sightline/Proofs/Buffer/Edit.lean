import Sightline.Buffer.Edit
import Sightline.Proofs.Line.Occurrences

/-! Edits, and what the lines hide. Edits are replayed in order, each on a line that
is there. Whatever an edit does to some aligned lines, and at whichever index, the
lines are aligned afterwards and hide the same columns in the same order. -/
namespace Sightline

/-- The columns that some lines hide, line by line. -/
def hiddenColumns (lines : List Line) : List (Char × Char) := lines.flatMap Line.hidden

namespace Edit

/-- The edit finds the line it changes, or the place for the line it puts in. -/
def Fits (lines : List Line) : Edit → Prop
  | splice index _ _ => index < lines.length
  | insert index _ => index ≤ lines.length
  | replace index _ _ => index < lines.length
  | append index _ => index < lines.length

instance (lines : List Line) (e : Edit) : Decidable (e.Fits lines) := by
  cases e <;> exact Nat.decLe _ _

variable {lines : List Line} {f : Line → Line}

/-- A change of the line at an index finds that line, or changes nothing. -/
theorem modify_cases (f : Line → Line) (index : Nat) (lines : List Line) :
    lines.modify index f = lines ∨ ∃ before l after,
      lines = before ++ l :: after ∧ lines.modify index f = before ++ f l :: after := by
  rcases Nat.lt_or_ge index lines.length with h | h
  · obtain ⟨before, l, after, hLines, _, hModify⟩ := List.exists_of_modify f h
    exact Or.inr ⟨before, l, after, hLines, hModify⟩
  · exact Or.inl (List.modify_eq_self h)

/-- A line that is put in stands between two parts of the lines, or is not put in. -/
theorem insertIdx_cases (l : Line) (index : Nat) (lines : List Line) :
    lines.insertIdx index l = lines ∨ ∃ before after,
      lines = before ++ after ∧ lines.insertIdx index l = before ++ l :: after := by
  rcases Nat.lt_or_ge lines.length index with h | h
  · exact Or.inl (List.insertIdx_of_length_lt h)
  · obtain ⟨before, after, hLines, _, hInsert⟩ := List.exists_of_modifyTailIdx (List.cons l) h
    exact Or.inr ⟨before, after, hLines, hInsert⟩

theorem aligned_modify (hf : ∀ l : Line, l.Aligned → (f l).Aligned) (index : Nat)
    (h : ∀ l ∈ lines, l.Aligned) : ∀ l ∈ lines.modify index f, l.Aligned := by
  rcases modify_cases f index lines with hSame | ⟨before, l, after, rfl, hModify⟩
  · rwa [hSame]
  · rw [hModify]
    simp only [List.forall_mem_append, List.forall_mem_cons] at h ⊢
    exact ⟨h.1, hf l h.2.1, h.2.2⟩

theorem hiddenColumns_modify (hf : ∀ l : Line, l.Aligned → (f l).hidden = l.hidden) (index : Nat)
    (h : ∀ l ∈ lines, l.Aligned) : hiddenColumns (lines.modify index f) = hiddenColumns lines := by
  rcases modify_cases f index lines with hSame | ⟨before, l, after, rfl, hModify⟩
  · rw [hSame]
  · have hl : l.Aligned := h l (by simp)
    rw [hModify]
    simp only [hiddenColumns, List.flatMap_append, List.flatMap_cons, hf l hl]

/-- An edit keeps text and view of every line in step. -/
theorem aligned_apply (e : Edit) (h : ∀ l ∈ lines, l.Aligned) :
    ∀ l ∈ e.apply lines, l.Aligned := by
  cases e with
  | splice index column s => exact aligned_modify (fun l hl => hl.splice column s) index h
  | insert index s =>
      rw [apply]
      rcases insertIdx_cases (.plain s) index lines with hSame | ⟨before, after, rfl, hInsert⟩
      · rwa [hSame]
      · rw [hInsert]
        simp only [List.forall_mem_append, List.forall_mem_cons] at h ⊢
        exact ⟨h.1, Line.aligned_plain s, h.2⟩
  | replace index old new => exact aligned_modify (fun l hl => hl.replace old new) index h
  | append index s =>
      exact aligned_modify (fun l hl => hl.append (Line.aligned_plain s)) index h

/-- An edit removes, adds, alters or moves nothing of what the lines hide. -/
theorem hiddenColumns_apply (e : Edit) (h : ∀ l ∈ lines, l.Aligned) :
    hiddenColumns (e.apply lines) = hiddenColumns lines := by
  cases e with
  | splice index column s =>
      exact hiddenColumns_modify (fun l hl => Line.hidden_splice hl column s) index h
  | insert index s =>
      rw [apply]
      rcases insertIdx_cases (.plain s) index lines with hSame | ⟨before, after, rfl, hInsert⟩
      · rw [hSame]
      · rw [hInsert]
        simp [hiddenColumns]
  | replace index old new =>
      exact hiddenColumns_modify (fun l _ => Line.hidden_replace l old new) index h
  | append index s =>
      refine hiddenColumns_modify (fun l hl => ?_) index h
      rw [Line.append_eq, Line.hidden_append hl, Line.hidden_plain, List.append_nil]

end Edit

end Sightline
