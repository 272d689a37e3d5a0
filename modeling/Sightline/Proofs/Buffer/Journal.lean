import Sightline.Buffer.Change
import Sightline.Buffer.Member
import Sightline.Proofs.Buffer.Bracket
import Sightline.Proofs.Buffer.Edit

/-! What one operation does to a buffer. A search leaves the lines alone and writes
nothing into the journal. A change makes one edit, and its journal record is the
only record it sends, or it is refused and leaves the lines alone as well. -/
namespace Sightline

/-- Whether an operation changes the lines, and the lines and records it may leave
behind then. -/
inductive Journaled (lines : List Line) : (made : Bool) → List Line → List Record → Prop where
  /-- The lines are as they were, and no record is in the journal. -/
  | quiet {records : List Record} (h : ∀ r ∈ records, r.channel = .engine) :
      Journaled lines false lines records
  /-- One edit is made, and its record is all that is sent. -/
  | edit (e : Edit) (hFits : e.Fits lines) : Journaled lines true (e.apply lines) [e.record]

theorem Journaled.lines_eq {lines lines' : List Line} {records : List Record}
    (h : Journaled lines false lines' records) : lines' = lines := by
  cases h
  rfl

/-- A step that reads the lines of a buffer at most. -/
structure Step.Reads {α : Type} (b : Buffer) (step : Step α) : Prop where
  lines : step.buffer.lines = b.lines
  records : ∀ r ∈ step.records, r.channel = .engine

theorem Step.Reads.journaled {α : Type} {b : Buffer} {step : Step α} (h : step.Reads b) :
    Journaled b.lines false step.buffer.lines step.records := by
  rw [h.lines]
  exact .quiet h.records

namespace Buffer

theorem jump_lines (offset : Int) (b : Buffer) : (b.jump offset).1.lines = b.lines := by
  simp only [jump]
  split_ifs <;> rfl

theorem forward_lines (fits : Text → Bool) (b : Buffer) : (b.forward fits).1.lines = b.lines := by
  simp only [forward]
  split <;> rfl

theorem backward_lines (fits : Text → Bool) (b : Buffer) : (b.backward fits).1.lines = b.lines := by
  simp only [backward]
  split <;> rfl

theorem reported_reads {b : Buffer} (name : String) (s : Text) {search : Buffer × Option Nat}
    (h : search.1.lines = b.lines) : (reported name s search).Reads b :=
  ⟨h, by simp [reported, searchRecord, Record.note]⟩

theorem seekHaving_reads (s : Text) (b : Buffer) : (b.seekHaving s).Reads b :=
  reported_reads _ s (forward_lines _ b)

theorem seekBackHaving_reads (s : Text) (b : Buffer) : (b.seekBackHaving s).Reads b :=
  reported_reads _ s (backward_lines _ b)

theorem seekBeing_reads (s : Text) (b : Buffer) : (b.seekBeing s).Reads b :=
  reported_reads _ s (forward_lines _ b)

theorem seekBackBeing_reads (s : Text) (b : Buffer) : (b.seekBackBeing s).Reads b :=
  reported_reads _ s (backward_lines _ b)

theorem seekShown_reads (shown : List Value) (candidates : List Text) (b : Buffer) :
    (b.seekShown shown candidates).Reads b := by
  have hLines := forward_lines (havingAny candidates) b
  unfold seekShown
  split
  next hForward =>
    rw [hForward] at hLines
    exact ⟨hLines, by simp⟩
  next hForward =>
    rw [hForward] at hLines
    exact ⟨hLines, by simp [missRecord, Record.note]⟩

theorem seekCandidates_reads {candidates : List Value} {b : Buffer} {step : Step (Option Text)}
    (h : b.seekCandidates candidates = .ok step) : step.Reads b := by
  unfold seekCandidates at h
  split at h
  · cases h
    exact seekShown_reads _ _ b
  · split at h
    · split_ifs at h
      cases h
      exact ⟨rfl, by simp [missRecord, Record.note]⟩
    · split_ifs at h
      cases h
      exact seekShown_reads _ _ b

theorem leave_lines (fault : CandidateFault) (b : Buffer) : (fault.leave b).lines = b.lines := by
  cases fault <;> rfl

theorem leaveBlocks_reads (blocks : List String) (b : Buffer) : (b.leaveBlocks blocks).Reads b := by
  induction blocks generalizing b with
  | nil => exact ⟨rfl, by simp [leaveBlocks]⟩
  | cons block blocks ih =>
      have hBrace := seekBackBeing_reads closingBrace b
      have hAbove := ih ((b.seekBackBeing closingBrace).buffer.jump (-1)).1
      simp only [leaveBlocks]
      split
      · refine ⟨hBrace.lines, List.forall_mem_append.mpr ⟨hBrace.records, ?_⟩⟩
        simp [Record.note]
      · refine ⟨(hAbove.lines.trans (jump_lines _ _)).trans hBrace.lines, ?_⟩
        exact List.forall_mem_append.mpr ⟨hBrace.records, hAbove.records⟩

theorem endAbove_reads {b : Buffer} {next : Step (Option Text)} (h : next.Reads b) :
    (endAbove next).Reads b := by
  simp only [endAbove]
  split
  · have hBrace := seekBackBeing_reads closingBrace next.buffer
    have hRecords := List.forall_mem_append.mpr ⟨h.records, hBrace.records⟩
    split
    · exact ⟨hBrace.lines.trans h.lines, hRecords⟩
    · exact ⟨((jump_lines _ _).trans hBrace.lines).trans h.lines, hRecords⟩
  · have hLast := leaveBlocks_reads ["namespace", "type", "member"]
      (next.buffer.jump next.buffer.size).1
    exact ⟨(hLast.lines.trans (jump_lines _ _)).trans h.lines,
      List.forall_mem_append.mpr ⟨h.records, hLast.records⟩⟩

/-- A new line in place of the one at an index is a change of that line. -/
theorem set_eq_modify {lines : List Line} {index : Nat} {line : Line} (f : Line → Line)
    (h : lines[index]? = some line) : lines.set index (f line) = lines.modify index f := by
  rw [List.modify_eq_set, h]
  rfl

theorem lt_length_of_getElem? {lines : List Line} {index : Nat} {line : Line}
    (h : lines[index]? = some line) : index < lines.length :=
  (List.getElem?_eq_some_iff.mp h).1

theorem insertLine_journaled (s : Text) (following : Bool) (back : Int) (b : Buffer) :
    Journaled b.lines true (b.insertLine s following back).buffer.lines
      (b.insertLine s following back).records := by
  refine .edit (.insert _ _) ?_
  simp only [Edit.Fits, size]
  omega

theorem insertNewLine_journaled (s : Text) (following : Bool) (back : Int) (b : Buffer) :
    Journaled b.lines (b.insertNewLine s following back).answer
      (b.insertNewLine s following back).buffer.lines
      (b.insertNewLine s following back).records := by
  unfold insertNewLine
  split_ifs
  · exact .quiet (by simp [Record.note])
  · exact insertLine_journaled s following back b

theorem replaceText_journaled (old new : Text) (b : Buffer) :
    Journaled b.lines (b.replaceText old new).answer (b.replaceText old new).buffer.lines
      (b.replaceText old new).records := by
  simp only [replaceText]
  split
  · exact .quiet (by simp)
  next line hLine =>
    split_ifs
    · exact .quiet (by simp)
    · exact .quiet (by simp [Record.note])
    · have hAt := ((current?_eq_some_iff b line).mp hLine).2
      rw [set_eq_modify (fun l => l.replace old new) hAt]
      exact .edit (.replace _ old new) (lt_length_of_getElem? hAt)

theorem appendText_journaled (s : Text) (b : Buffer) :
    Journaled b.lines (b.appendText s).answer (b.appendText s).buffer.lines
      (b.appendText s).records := by
  simp only [appendText]
  split
  · exact .quiet (by simp)
  next line hLine =>
    have hAt := ((current?_eq_some_iff b line).mp hLine).2
    rw [set_eq_modify (fun l => l.append s) hAt]
    exact .edit (.append _ s) (lt_length_of_getElem? hAt)

theorem insertBehindBracket_journaled {located s opening closing : Text} {b : Buffer}
    {step : Step Bool} (h : b.insertBehindBracket located s opening closing = .ok step) :
    Journaled b.lines step.answer step.buffer.lines step.records := by
  by_cases hEnds : opening.isSuffixOf located = true
  · rcases b.insertBehindBracket_cases s closing hEnds with
      ⟨index, column, target, site, hResult⟩ | ⟨_, records, hRecords, hResult⟩
    · cases h.symm.trans hResult
      rw [set_eq_modify (fun l => l.splice column s) site.line]
      exact .edit (.splice index column s) (lt_length_of_getElem? site.line)
    · cases h.symm.trans hResult
      exact .quiet hRecords
  · simp [insertBehindBracket, hEnds] at h

end Buffer

end Sightline
