import Sightline.Proofs.Buffer.Cursor
import Sightline.Proofs.Session.Atomicity
import Sightline.Proofs.Session.Opening

/-! Runs of operations are safe. Whatever is carried out, with whatever arguments, the cursor
stays in its range and no index is used that is none of a line or a column; an operation fails
for a reason that can be told beforehand, and leaves the lines as they were. -/
namespace Sightline

namespace Operation

/-- The operation is a search. -/
def Seeks : Operation → Prop
  | seekHaving _ | seekBackHaving _ | seekBeing _ | seekBackBeing _ => True
  | seekAny _ | seekMemberEnd => True
  | _ => False

/-- Where a search leaves the cursor if it finds nothing: behind the last line, or in front of the
first if it ends with a search backward. -/
def missPlace (b : Buffer) : Operation → Int
  | seekBackHaving _ | seekBackBeing _ | seekMemberEnd => -1
  | _ => b.size

/-- What a search for candidates leaves of a buffer if it fails for a reason: the cursor is where it
was, or behind the last line if nothing is found and only telling so fails. -/
def missedIn (b : Buffer) : SessionFault → Buffer
  | .setting .unwritable => { b with position := b.size }
  | _ => b

/-- What an operation leaves of a buffer if it fails for a reason. The search for the end of a
member has moved to the line below by then. -/
def leftIn (b : Buffer) (fault : SessionFault) : Operation → Buffer
  | seekAny _ => missedIn b fault
  | seekMemberEnd => missedIn (b.jump 1).1 fault
  | _ => b

theorem missedIn_ofCandidate (b : Buffer) (cause : CandidateFault) :
    missedIn b (.setting (.ofCandidate cause)) = cause.leave b := by
  cases cause <;> rfl

theorem leftIn_inRange {b : Buffer} (h : b.InRange) (fault : SessionFault) (op : Operation) :
    (op.leftIn b fault).InRange := by
  have hMissed {b : Buffer} (h : b.InRange) : (missedIn b fault).InRange := by
    unfold missedIn
    split
    · exact (Buffer.settles_end b).inRange
    · exact h
  cases op with
  | seekAny candidates => exact hMissed h
  | seekMemberEnd => exact hMissed (Buffer.jump_inRange 1 b)
  | _ => exact h

end Operation

/-- The answer of a search that finds nothing. -/
def Answer.Missed : Answer → Prop
  | .found index => index = none
  | .candidate s => s = none
  | .flag made => made = false
  | _ => False

theorem Step.Local.inRange {b : Buffer} {makes : Line → Line → Prop} {step : Step Bool}
    (hLocal : step.Local b makes) (h : b.InRange) : step.buffer.InRange := by
  cases hLocal with
  | refused => exact h
  | @made index old new hOld _ _ =>
      refine Buffer.onLine_inRange ⟨Int.natCast_nonneg index, ?_⟩
      rw [Buffer.size, List.length_set]
      exact Int.ofNat_lt.mpr (Buffer.lt_length_of_getElem? hOld)

namespace Session

theorem write_buffer (codecs : Registry) (store : Store) (s : Session) (path : Option String) :
    (s.write codecs store path).session.buffer = s.buffer := by
  unfold write
  split
  · rfl
  · split
    · rfl
    · split <;> rfl

/-- A search that does not fail settles, and answers what it found. -/
theorem perform_settles (codecs : Registry) (store : Store) (s : Session) {op : Operation}
    (h : op.Seeks) :
    (∃ fault, (s.perform codecs store op).answer = .error fault ∧
      (s.perform codecs store op).session = { s with buffer := op.leftIn s.buffer fault }) ∨
    ∃ found answer, (s.perform codecs store op).answer = .ok answer ∧
      (answer.Missed ↔ found = false) ∧
      s.buffer.Settles (op.missPlace s.buffer) found
        (s.perform codecs store op).session.buffer := by
  have hNone {α : Type} (found : Option α) : found = none ↔ found.isSome = false := by simp
  cases op with
  | seekHaving t | seekBeing t =>
      exact .inr ⟨_, _, rfl, hNone _, Buffer.forward_settles _ s.buffer⟩
  | seekBackHaving t | seekBackBeing t =>
      exact .inr ⟨_, _, rfl, hNone _, Buffer.backward_settles _ s.buffer⟩
  | seekAny candidates =>
      simp only [perform]
      split
      · exact .inl ⟨_, rfl, rfl⟩
      · split
        next hSeek =>
          exact .inr ⟨_, _, rfl, hNone _, Buffer.seekCandidates_settles hSeek⟩
        next cause _ =>
          refine .inl ⟨_, rfl, ?_⟩
          rw [Operation.leftIn, Operation.missedIn_ofCandidate]
          rfl
  | seekMemberEnd =>
      simp only [perform]
      split
      next step hSeek =>
        have hEnd := Buffer.endAbove_settles step
        have hLines := (Buffer.seekCandidates_settles hSeek).lines.trans (Buffer.jump_lines 1 _)
        exact .inr ⟨_, _, rfl, Iff.rfl, hEnd.lines.trans hLines, hEnd.inRange, hEnd.miss_iff⟩
      next cause _ =>
        refine .inl ⟨_, rfl, ?_⟩
        rw [Operation.leftIn, Operation.missedIn_ofCandidate]
        rfl
  | _ => exact h.elim

/-- Whatever is carried out, the cursor stays in its range. -/
theorem perform_inRange (codecs : Registry) (store : Store) {s : Session} (op : Operation)
    (h : s.buffer.InRange) :
    (s.perform codecs store op).session.buffer.InRange := by
  by_cases hSeeks : op.Seeks
  · obtain ⟨fault, -, hLeft⟩ | ⟨_, _, -, -, hSettles⟩ := perform_settles codecs store s hSeeks
    · rw [hLeft]
      exact Operation.leftIn_inRange h fault op
    · exact hSettles.inRange
  by_cases hEdits : op.EditsLine
  · obtain ⟨_, hOutcome, -⟩ | ⟨-, step, hLocal, hOutcome⟩ := perform_editsLine codecs store s hEdits
    · rwa [hOutcome]
    · rw [hOutcome]
      exact hLocal.inRange h
  by_cases hInserts : op.Inserts
  · obtain ⟨-, ⟨-, hSame⟩ | ⟨-, index, hIndex, hSession⟩⟩ := perform_inserts codecs store s hInserts
    · rwa [hSame]
    · rw [hSession]
      refine ⟨by dsimp only; omega, ?_⟩
      rw [Buffer.size, List.length_insertIdx_of_le_length hIndex]
      exact Int.ofNat_le.mpr (Nat.le_succ_of_le hIndex)
  cases op with
  | toTop => exact s.buffer.toTop_inRange
  | jump offset => exact Buffer.jump_inRange offset s.buffer
  | currentView | currentHas t =>
      simp only [perform]
      split <;> exact h
  | write path =>
      rw [perform, write_buffer]
      exact h
  | texts | views => exact h
  | seekHaving | seekBackHaving | seekBeing | seekBackBeing | seekAny | seekMemberEnd =>
      exact absurd trivial hSeeks
  | insertBehindBracket | replaceText | appendText => exact absurd trivial hEdits
  | insertLine | insertNewLine => exact absurd trivial hInserts

/-- The cursor is in its range and the lines have views of their lengths. -/
structure Sound (s : Session) : Prop where
  inRange : s.buffer.InRange
  aligned : s.buffer.Aligned

end Session

end Sightline
