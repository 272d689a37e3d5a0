import Mathlib.Data.List.InsertIdx
import Sightline.Proofs.Session.Atomicity

/-! A line that is put in only if no line has its text yet. Behind the first call for a text some
line has it, and operations that only put lines in or add to their ends take it from none; so every
later call for it is refused, whatever has been carried out in between. -/
namespace Sightline

namespace Buffer

/-- The line at an index is there, and has a text somewhere. -/
def HasAt (b : Buffer) (t : Text) (index : Nat) : Prop :=
  ∃ line, b.lines[index]? = some line ∧ t <:+: line.text

/-- Some line has a text somewhere. -/
def Has (b : Buffer) (t : Text) : Prop := ∃ line ∈ b.lines, t <:+: line.text

variable {b : Buffer} {t : Text}

theorem Has.insertIdx (h : b.Has t) (index : Nat) (line : Line) (position : Int) :
    Has ⟨b.lines.insertIdx index line, position⟩ t := by
  obtain ⟨old, hMem, hHas⟩ := h
  exact ⟨old, List.subset_insertIdx b.lines index line hMem, hHas⟩

/-- What a line has it has with more text at its end. -/
theorem Has.append (h : b.Has t) {index : Nat} {old : Line} (hOld : b.lines[index]? = some old)
    (new : Text) (position : Int) : Has ⟨b.lines.set index (old.append new), position⟩ t := by
  obtain ⟨line, hMem, hHas⟩ := h
  obtain ⟨i, hLine⟩ := List.mem_iff_getElem?.mp hMem
  by_cases hSame : i = index
  · subst hSame
    obtain rfl : old = line := Option.some.inj (hOld.symm.trans hLine)
    refine ⟨old.append new, List.mem_of_getElem? (List.getElem?_set_self ?_), ?_⟩
    · exact lt_length_of_getElem? hOld
    · exact hHas.trans (List.prefix_append old.text new).isInfix
  · refine ⟨line, List.mem_of_getElem? (i := i) ?_, hHas⟩
    rw [List.getElem?_set_ne (Ne.symm hSame), hLine]

theorem any_holds_iff (b : Buffer) (t : Text) :
    (b.lines.any fun line => Text.holds line.text t) = true ↔ b.Has t := by
  simp only [List.any_eq_true, Text.holds_iff, Has]

theorem insertNewLine_of_has (h : b.Has t) (following : Bool) (back : Int) :
    ∃ records, b.insertNewLine t following back = ⟨b, false, records⟩ := by
  rw [insertNewLine, if_pos ((any_holds_iff b t).mpr h)]
  exact ⟨_, rfl⟩

/-- A text that no line has is put in, and one line has it then. -/
theorem insertNewLine_of_not_has (h : ¬b.Has t) (following : Bool) (back : Int) :
    (b.insertNewLine t following back).answer = true ∧
      ∃! index, (b.insertNewLine t following back).buffer.HasAt t index := by
  have hMade : b.insertNewLine t following back =
      ⟨(b.insertLine t following back).buffer, true, (b.insertLine t following back).records⟩ := by
    rw [insertNewLine, if_neg (mt (any_holds_iff b t).mp h)]
  obtain ⟨index, hIndex, hBuffer⟩ := b.exists_insertLine t following back
  rw [hMade, hBuffer]
  refine ⟨rfl, index, ⟨.plain (b.copiedIndent following back ++ t), ?_, ?_⟩, ?_⟩
  · exact List.getElem?_insertIdx_self.trans (if_pos hIndex)
  · exact (List.suffix_append _ t).isInfix
  · rintro other ⟨line, hLine, hHas⟩
    by_contra hOther
    have hOld := List.mem_eraseIdx_iff_getElem?.mpr ⟨other, hOther, hLine⟩
    rw [List.eraseIdx_insertIdx_self] at hOld
    exact h ⟨line, hOld, hHas⟩

end Buffer

/-- The operation may take apart what a line has. -/
def Operation.Divides : Operation → Prop
  | insertBehindBracket .. | replaceText .. => True
  | _ => False

namespace Session

/-- An operation that takes no line apart leaves to some line what some line had. -/
theorem perform_has (codecs : Registry) (store : Store) {s : Session} {op : Operation}
    (hOp : ¬op.Divides) {t : Text} (h : s.buffer.Has t) :
    (s.perform codecs store op).session.buffer.Has t := by
  have hSame (hChanged : op.hasChanged (s.perform codecs store op).answer = false) :
      (s.perform codecs store op).session.buffer.Has t := by
    rwa [Buffer.Has, perform_lines hChanged]
  by_cases hInserts : op.Inserts
  · obtain ⟨-, ⟨-, hRefused⟩ | ⟨-, index, -, hMade⟩⟩ := perform_inserts codecs store s hInserts
    · rwa [hRefused]
    · rw [hMade]
      exact h.insertIdx index _ _
  cases op with
  | insertBehindBracket | replaceText => exact absurd trivial hOp
  | insertLine | insertNewLine => exact absurd trivial hInserts
  | appendText new =>
      have hLocal := s.buffer.appendText_local new
      change (s.buffer.appendText new).buffer.Has t
      generalize s.buffer.appendText new = step at hLocal ⊢
      cases hLocal with
      | refused => exact h
      | made hOld hNew =>
          cases hNew
          exact h.append hOld new _
  | _ => exact hSame rfl

theorem perform_insertNewLine_of_has (codecs : Registry) (store : Store) {s : Session} {t : Text}
    (h : s.buffer.Has t) (following : Bool) (back : Int) :
    (s.perform codecs store (.insertNewLine t following back)).answer = .ok (.flag false) ∧
      (s.perform codecs store (.insertNewLine t following back)).session = s := by
  obtain ⟨records, hRefused⟩ := Buffer.insertNewLine_of_has h following back
  rw [perform, hRefused]
  exact ⟨rfl, rfl⟩

/-- A call for a new line says whether it was one, and some line has its text afterwards. -/
theorem perform_insertNewLine_cases (codecs : Registry) (store : Store) (s : Session) (t : Text)
    (following : Bool) (back : Int) :
    let first := s.perform codecs store (.insertNewLine t following back)
    ∃ made : Bool, first.answer = .ok (.flag made) ∧ (made = true ↔ ¬s.buffer.Has t) ∧
      (made = true → ∃! index, first.session.buffer.HasAt t index) ∧
      first.session.buffer.Has t := by
  by_cases hHas : s.buffer.Has t
  · obtain ⟨hAnswer, hSession⟩ := perform_insertNewLine_of_has codecs store hHas following back
    exact ⟨false, hAnswer, by simp [hHas], nofun, by rwa [hSession]⟩
  · obtain ⟨hMade, hOne⟩ := Buffer.insertNewLine_of_not_has hHas following back
    refine ⟨true, ?_, by simp [hHas], fun _ => hOne, ?_⟩
    · rw [perform, afterStep, hMade]
    · obtain ⟨index, ⟨line, hLine, hStands⟩, -⟩ := hOne
      exact ⟨line, List.mem_of_getElem? hLine, hStands⟩

/-- A line is put in exactly if no line has its text yet, and then one line has it. From there on
some line has it, as long as no line is taken apart: whatever else is carried out, and however a
later line is to be indented, one with this text is refused, and the session stays as it is. -/
theorem new_line_put_in_once (codecs : Registry) (store : Store) (s : Session) (t : Text)
    (following : Bool) (back : Int) :
    let first := s.perform codecs store (.insertNewLine t following back)
    ∃ made : Bool, first.answer = .ok (.flag made) ∧ (made = true ↔ ¬s.buffer.Has t) ∧
      (made = true → ∃! index, first.session.buffer.HasAt t index) ∧
      ∀ ops : List Operation, (∀ op ∈ ops, ¬op.Divides) →
        let later := first.session.after (first.session.performAll codecs first.store ops)
        ∀ (store : Store) (following : Bool) (back : Int),
          (later.perform codecs store (.insertNewLine t following back)).answer =
            .ok (.flag false) ∧
          (later.perform codecs store (.insertNewLine t following back)).session = later := by
  intro first
  obtain ⟨made, hAnswer, hMade, hOne, hHas⟩ :=
    perform_insertNewLine_cases codecs store s t following back
  refine ⟨made, hAnswer, hMade, hOne, fun ops hOps => ?_⟩
  intro later store following back
  have hLater : later.buffer.Has t :=
    after_performAll_of_mem (P := fun s' => s'.buffer.Has t)
      (fun store _ op hOp => perform_has codecs store (hOps op hOp)) first.store hHas
  exact perform_insertNewLine_of_has codecs store hLater following back

/-- A session on one line that is indented. -/
def indented : Session :=
  ⟨.ofLines [.plain "  use a".toList], none, .null, .ofDelimiters .standard, []⟩

/-- Behind another line, and a longer one, the same text is refused, indented or not. -/
theorem use_put_in_once :
    let first := indented.perform .common (.empty "/") (.insertNewLine " b".toList false 0)
    let ops := [Operation.insertLine " bc".toList true 1, .toTop, .seekHaving ['b'],
      .appendText ['d'], .seekMemberEnd]
    let later := first.session.after (first.session.performAll .common first.store ops)
    (∀ op ∈ ops, ¬op.Divides) ∧ first.answer = .ok (.flag true) ∧
      (∃! index, first.session.buffer.HasAt " b".toList index) ∧
      later.buffer.texts = ["  use a".toList, "   bd".toList, " bc".toList] ∧
      (later.perform .common (.empty "/") (.insertNewLine " b".toList true 2)).answer =
        .ok (.flag false) ∧
      (later.perform .common (.empty "/") (.insertNewLine " b".toList true 2)).session = later := by
  intro first ops later
  have hOps : ∀ op ∈ ops, ¬op.Divides := by simp [ops, Operation.Divides]
  have hFirst : first.answer = .ok (.flag true) := rfl
  obtain ⟨made, hAnswer, -, hOne, hRefused⟩ :=
    new_line_put_in_once .common (.empty "/") indented " b".toList false 0
  obtain rfl : true = made := Answer.flag.inj (Except.ok.inj (hFirst.symm.trans hAnswer))
  exact ⟨hOps, hFirst, hOne rfl, by decide +kernel, hRefused ops hOps (.empty "/") true 2⟩

end Session

end Sightline
