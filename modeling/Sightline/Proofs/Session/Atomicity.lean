import Sightline.Proofs.Session.Run

/-! A change is made as a whole or not at all. An operation that is refused leaves the
session as it was; one that is carried out puts in one line, or edits one, and the cursor
is on that line afterwards. -/
namespace Sightline

/-- How a change of a line went: it is refused and nothing happens, or the line at some index
gives way to what the change makes of it, and the cursor is there. -/
inductive Step.Local (b : Buffer) (makes : Line → Line → Prop) : Step Bool → Prop where
  | refused (records : List Record) : Local b makes ⟨b, false, records⟩
  | made {index : Nat} {old new : Line} (hOld : b.lines[index]? = some old)
      (hNew : makes old new) (records : List Record) :
      Local b makes ⟨⟨b.lines.set index new, index⟩, true, records⟩

namespace Operation

/-- The operation puts a line in. -/
def Inserts : Operation → Prop
  | insertLine .. => True
  | insertNewLine .. => True
  | _ => False

/-- The line that the operation puts into a buffer. -/
def newLine (b : Buffer) : Operation → Line
  | insertLine t following back => .plain (b.copiedIndent following back ++ t)
  | insertNewLine t following back => .plain (b.copiedIndent following back ++ t)
  | _ => .plain []

/-- The operation edits a line. -/
def EditsLine : Operation → Prop
  | insertBehindBracket .. => True
  | replaceText .. => True
  | appendText .. => True
  | _ => False

/-- What the operation makes of the line it edits. -/
def Makes : Operation → Line → Line → Prop
  | insertBehindBracket _ t _ _, old, new => ∃ column : Nat, new = old.splice column t
  | replaceText t t', old, new => old.occurrences t ≠ [] ∧ new = old.replace t t'
  | appendText t, old, new => new = old.append t
  | _, _, _ => False

/-- The operation puts in what is there already, or nothing. -/
def Idle : Operation → Prop
  | insertBehindBracket _ t _ _ => t = []
  | replaceText t t' => t = t'
  | appendText t => t = []
  | _ => False

/-- The text that is to locate a bracket does not end with it. -/
def Malformed : Operation → Prop
  | insertBehindBracket located _ opening _ => ¬opening <:+ located
  | _ => False

theorem Makes.eq_self_iff {op : Operation} {old new : Line} (h : op.Makes old new) :
    new = old ↔ op.Idle := by
  cases op with
  | insertBehindBracket located t opening closing =>
      obtain ⟨column, rfl⟩ := h
      exact Line.splice_eq_self_iff old column t
  | replaceText t t' =>
      obtain ⟨hFound, rfl⟩ := h
      exact Line.replace_eq_self_iff hFound t'
  | appendText t =>
      obtain rfl := h
      exact Line.append_eq_self_iff old t
  | _ => exact h.elim

end Operation

theorem Step.Local.current {b : Buffer} {makes : Line → Line → Prop} {old new : Line}
    (hOld : b.current? = some old) (hNew : makes old new) (records : List Record) :
    Step.Local b makes ⟨{ b with lines := b.lines.set b.position.toNat new }, true, records⟩ := by
  obtain ⟨hPosition, hLine⟩ := (Buffer.current?_eq_some_iff b old).mp hOld
  have hMade := Step.Local.made hLine hNew records
  rwa [Int.toNat_of_nonneg hPosition] at hMade

namespace Buffer

theorem exists_insertLine (b : Buffer) (s : Text) (following : Bool) (back : Int) :
    ∃ index ≤ b.size, (b.insertLine s following back).buffer =
      ⟨b.lines.insertIdx index (.plain (b.copiedIndent following back ++ s)), index⟩ :=
  ⟨_, by omega, rfl⟩

theorem replaceText_local (b : Buffer) (old new : Text) :
    (b.replaceText old new).Local b (Operation.replaceText old new).Makes := by
  simp only [replaceText]
  split
  · exact .refused _
  next line hLine =>
    split_ifs with hEmpty hNone
    · exact .refused _
    · exact .refused _
    · have hFound : line.occurrences old ≠ [] := by simpa using hNone
      exact .current hLine ⟨hFound, rfl⟩ _

theorem appendText_local (b : Buffer) (s : Text) :
    (b.appendText s).Local b (Operation.appendText s).Makes := by
  simp only [appendText]
  split
  · exact .refused _
  next line hLine =>
    have hMakes : (Operation.appendText s).Makes line (line.append s) := rfl
    exact .current hLine hMakes _

theorem insertBehindBracket_local {b : Buffer} {located s opening closing : Text}
    {step : Step Bool} (h : b.insertBehindBracket located s opening closing = .ok step) :
    step.Local b (Operation.insertBehindBracket located s opening closing).Makes := by
  by_cases hEnds : opening.isSuffixOf located = true
  · rcases b.insertBehindBracket_cases s closing hEnds with
      ⟨index, column, target, site, hResult⟩ | ⟨_, records, _, hResult⟩
    · cases h.symm.trans hResult
      exact .made site.line ⟨column, rfl⟩ _
    · cases h.symm.trans hResult
      exact .refused records
  · simp [insertBehindBracket, hEnds] at h

/-- The bracket is looked at before anything else. -/
theorem insertBehindBracket_eq_error_iff {b : Buffer} {located s opening closing : Text}
    {fault : BracketFault} :
    b.insertBehindBracket located s opening closing = .error fault ↔
      ¬opening <:+ located ∧ fault = ⟨opening⟩ := by
  by_cases hEnds : opening.isSuffixOf located = true
  · have hSuffix := List.isSuffixOf_iff_suffix.mp hEnds
    rcases b.insertBehindBracket_cases s closing hEnds with
      ⟨_, _, _, _, hResult⟩ | ⟨_, _, _, hResult⟩ <;> simp [hResult, hSuffix]
  · have hSuffix : ¬opening <:+ located := fun h => hEnds (List.isSuffixOf_iff_suffix.mpr h)
    simp [insertBehindBracket, hEnds, hSuffix, eq_comm]

end Buffer

namespace Session

/-- How an operation that edits a line went: it is refused or fails and the session is the same,
or one line gives way to what the operation makes of it. -/
theorem perform_editsLine (codecs : Registry) (store : Store) (s : Session) {op : Operation}
    (h : op.EditsLine) :
    (∃ fault, s.perform codecs store op = failed store s (.bracket fault) ∧ op.Malformed) ∨
    (¬op.Malformed ∧ ∃ step : Step Bool, step.Local s.buffer op.Makes ∧
      s.perform codecs store op = afterStep store s .flag step) := by
  cases op with
  | insertBehindBracket located t opening closing =>
      simp only [perform]
      cases hInsert : s.buffer.insertBehindBracket located t opening closing with
      | error fault =>
          obtain ⟨hSuffix, -⟩ := Buffer.insertBehindBracket_eq_error_iff.mp hInsert
          exact .inl ⟨fault, rfl, hSuffix⟩
      | ok step =>
          refine .inr ⟨fun hSuffix => ?_, step, Buffer.insertBehindBracket_local hInsert, rfl⟩
          cases hInsert.symm.trans (Buffer.insertBehindBracket_eq_error_iff.mpr ⟨hSuffix, rfl⟩)
  | replaceText old new => exact .inr ⟨id, _, s.buffer.replaceText_local old new, rfl⟩
  | appendText t => exact .inr ⟨id, _, s.buffer.appendText_local t, rfl⟩
  | _ => exact h.elim

/-- How an operation that puts a line in went: it is refused, or the line is in. -/
theorem perform_inserts (codecs : Registry) (store : Store) (s : Session) {op : Operation}
    (h : op.Inserts) :
    (s.perform codecs store op).store = store ∧
    (((s.perform codecs store op).answer = .ok (.flag false) ∧
      (s.perform codecs store op).session = s) ∨
    (((s.perform codecs store op).answer = .ok .nothing ∨
        (s.perform codecs store op).answer = .ok (.flag true)) ∧
      ∃ index ≤ s.buffer.size, (s.perform codecs store op).session =
        { s with buffer := ⟨s.buffer.lines.insertIdx index (op.newLine s.buffer), index⟩ })) := by
  cases op with
  | insertLine t following back =>
      obtain ⟨index, hIndex, hBuffer⟩ := s.buffer.exists_insertLine t following back
      exact ⟨rfl,
        .inr ⟨.inl rfl, index, hIndex, congrArg (fun b => { s with buffer := b }) hBuffer⟩⟩
  | insertNewLine t following back =>
      simp only [perform, Buffer.insertNewLine]
      split_ifs
      · exact ⟨rfl, .inl ⟨rfl, rfl⟩⟩
      · obtain ⟨index, hIndex, hBuffer⟩ := s.buffer.exists_insertLine t following back
        exact ⟨rfl,
          .inr ⟨.inr rfl, index, hIndex, congrArg (fun b => { s with buffer := b }) hBuffer⟩⟩
  | _ => exact h.elim

/-- With the cursor on no line there is no line to edit. -/
theorem perform_editsLine_of_current?_none (codecs : Registry) (store : Store) {s : Session}
    {op : Operation}
    (h : op.EditsLine) (hFormed : ¬op.Malformed) (hNone : s.buffer.current? = none) :
    (s.perform codecs store op).answer = .ok (.flag false) := by
  cases op with
  | insertBehindBracket located t opening closing =>
      have hEnds : opening.isSuffixOf located = true :=
        List.isSuffixOf_iff_suffix.mpr (not_not.mp hFormed)
      simp [perform, Buffer.insertBehindBracket, hEnds, hNone, afterStep]
  | replaceText old new => simp [perform, Buffer.replaceText, hNone, afterStep]
  | appendText t => simp [perform, Buffer.appendText, hNone, afterStep]
  | _ => exact h.elim

/-- Changes are all or nothing, and of one line. An operation that is refused or fails leaves the
session as it was. One that puts a line in has it at the cursor, and the others in their order
around it; one that edits a line has it at the cursor, and all others unchanged. Where the cursor
is on no line, there is nothing to edit. -/
theorem changes_are_atomic_and_local (codecs : Registry) (store : Store) (s : Session)
    (op : Operation) :
    let outcome := s.perform codecs store op
    let lines := outcome.session.buffer.lines
    (op.Inserts ∨ op.EditsLine →
      (outcome.answer = .ok (.flag false) ∨ ∃ fault, outcome.answer = .error fault) →
      outcome.session = s ∧ outcome.store = store) ∧
    (op.Inserts → outcome.answer = .ok .nothing ∨ outcome.answer = .ok (.flag true) →
      ∃ index ≤ s.buffer.size,
        outcome.session =
          { s with buffer := ⟨s.buffer.lines.insertIdx index (op.newLine s.buffer), index⟩ } ∧
        lines[index]? = some (op.newLine s.buffer) ∧ lines.length = s.buffer.size + 1 ∧
        lines.eraseIdx index = s.buffer.lines) ∧
    (op.EditsLine → outcome.answer = .ok (.flag true) →
      ∃ index old new, s.buffer.lines[index]? = some old ∧ op.Makes old new ∧
        (new = old ↔ op.Idle) ∧
        outcome.session = { s with buffer := ⟨s.buffer.lines.set index new, index⟩ } ∧
        lines[index]? = some new ∧ lines.length = s.buffer.size ∧
        ∀ i, i ≠ index → lines[i]? = s.buffer.lines[i]?) ∧
    (op.EditsLine → ¬op.Malformed →
      s.buffer.position = -1 ∨ s.buffer.position = s.buffer.size →
      outcome.answer = .ok (.flag false)) := by
  refine ⟨fun hOp hRefused => ?_, fun hOp hMade => ?_, fun hOp hMade => ?_,
    fun hOp hFormed hOff => ?_⟩
  · obtain hOp | hOp := hOp
    · obtain ⟨hStore, ⟨-, hSession⟩ | ⟨hMade, -⟩⟩ := perform_inserts codecs store s hOp
      · exact ⟨hSession, hStore⟩
      · rcases hRefused with hRefused | ⟨fault, hRefused⟩ <;> simp [hRefused] at hMade
    · obtain ⟨fault, hOutcome, -⟩ | ⟨-, step, hLocal, hOutcome⟩ :=
        perform_editsLine codecs store s hOp
      · rw [hOutcome]
        exact ⟨rfl, rfl⟩
      · rw [hOutcome] at hRefused ⊢
        cases hLocal with
        | refused => exact ⟨rfl, rfl⟩
        | made => simp [afterStep] at hRefused
  · obtain ⟨-, ⟨hRefused, -⟩ | ⟨-, index, hIndex, hSession⟩⟩ := perform_inserts codecs store s hOp
    · simp [hRefused] at hMade
    · refine ⟨index, hIndex, hSession, ?_⟩
      simp only [hSession]
      refine ⟨?_, List.length_insertIdx_of_le_length hIndex _, List.eraseIdx_insertIdx_self _⟩
      exact List.getElem?_insertIdx_self.trans (if_pos hIndex)
  · obtain ⟨fault, hOutcome, -⟩ | ⟨-, step, hLocal, hOutcome⟩ :=
      perform_editsLine codecs store s hOp
    · rw [hOutcome] at hMade
      cases hMade
    · rw [hOutcome] at hMade ⊢
      cases hLocal with
      | refused => simp [afterStep] at hMade
      | @made index old new hOld hNew records =>
          have hIndex := Buffer.lt_length_of_getElem? hOld
          exact ⟨index, old, new, hOld, hNew, hNew.eq_self_iff, rfl,
            List.getElem?_set_self hIndex, List.length_set,
            fun i hi => List.getElem?_set_ne (Ne.symm hi)⟩
  · exact perform_editsLine_of_current?_none codecs store hOp hFormed
      (Buffer.line?_eq_none (by omega))

/-- In a text that is half a comment, what is in sight is replaced in its own line only; the
comment is out of reach, and so is everything once the cursor is behind the last line. -/
theorem half_hidden_line_edited :
    let s : Session := ⟨.ofLines [⟨"x // x".toList, "x     ".toList⟩, .plain ['x']], none, .null,
      .ofDelimiters .standard, []⟩
    let replaced := s.perform .common (.empty "/") (.replaceText ['x'] ['y', 'y'])
    replaced.answer = .ok (.flag true) ∧
      replaced.session.buffer.lines[1]? = s.buffer.lines[1]? ∧
      (s.perform .common (.empty "/") (.replaceText ['/'] ['y'])).session = s ∧
      let behind : Session := { s with buffer.position := 2 }
      (behind.perform .common (.empty "/") (.appendText ['z'])).answer = .ok (.flag false) := by
  intro s replaced
  have hAnswer {old new : Text} {made : Bool} (h : (s.buffer.replaceText old new).answer = made) :
      (s.perform .common (.empty "/") (.replaceText old new)).answer = .ok (.flag made) :=
    congrArg (fun made => Except.ok (Answer.flag made)) h
  have hMade : replaced.answer = .ok (.flag true) := hAnswer (by decide +kernel)
  have hRefused : (s.perform .common (.empty "/") (.replaceText ['/'] ['y'])).answer =
      .ok (.flag false) := hAnswer (by decide +kernel)
  obtain ⟨-, -, hEdited, -⟩ :=
    changes_are_atomic_and_local .common (.empty "/") s (.replaceText ['x'] ['y', 'y'])
  obtain ⟨index, old, new, -, -, -, hSession, -, -, hOthers⟩ := hEdited trivial hMade
  have hIndex : index ≠ 1 := by
    intro hOne
    have hPosition := congrArg (fun session => session.buffer.position) hSession
    simp only [hOne] at hPosition
    revert hPosition
    decide +kernel
  refine ⟨hMade, hOthers 1 hIndex.symm, ?_, ?_⟩
  · exact ((changes_are_atomic_and_local .common (.empty "/") s (.replaceText ['/'] ['y'])).1
      (.inr trivial) (.inl hRefused)).1
  · exact (changes_are_atomic_and_local .common (.empty "/") _ (.appendText ['z'])).2.2.2
      trivial id (.inr rfl)

end Session

end Sightline
