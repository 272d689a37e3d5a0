import Sightline.Proofs.Buffer.Journal
import Sightline.Session.Operation

/-! Runs of a session. One operation makes one edit of the lines at most; what
every operation keeps, every run of operations keeps, whether or not they fail. -/
namespace Sightline

/-- Whether an operation that answers so has changed the lines. -/
def Operation.hasChanged : Operation → Except SessionFault Answer → Bool
  | .insertBehindBracket .., .ok (.flag made) => made
  | .insertLine .., .ok _ => true
  | .insertNewLine .., .ok (.flag made) => made
  | .replaceText .., .ok (.flag made) => made
  | .appendText .., .ok (.flag made) => made
  | _, _ => false

namespace Session

theorem records_logged (records : List Record) :
    Event.records (records.map .logged) = records := by
  induction records with
  | nil => rfl
  | cons record records ih => simp [Event.records]

/-- Writing a file is reported to the engine's channel only. -/
theorem write_records (codecs : Registry) (store : Store) (path : String) (lines : List Text)
    (encoding : Option String) :
    ∀ r ∈ Event.records (TextFile.write codecs store path lines encoding).2.2,
      r.channel = .engine := by
  unfold TextFile.write
  split
  · simp [Event.records]
  · simp only
    split_ifs <;> simp [Event.records, Event.note, Record.note]
  · simp [Event.records]
  · split <;> simp [Event.records, Event.note, Record.note]

theorem write_journaled (codecs : Registry) (store : Store) (s : Session) (path : Option String) :
    Journaled s.buffer.lines false (s.write codecs store path).session.buffer.lines
      (Event.records (s.write codecs store path).events) := by
  unfold write
  split
  · exact .quiet (by simp [failed, Event.records])
  · split
    · exact .quiet (by simp [failed, Event.records])
    next target _ _ name _ =>
      have hRecords := write_records codecs store target s.buffer.texts name
      split
      next hWrite =>
        rw [hWrite] at hRecords
        exact .quiet hRecords
      next hWrite =>
        rw [hWrite] at hRecords
        exact .quiet hRecords

theorem afterStep_journaled {α : Type} (store : Store) (s : Session) (toAnswer : α → Answer)
    {step : Step α} {made : Bool}
    (h : Journaled s.buffer.lines made step.buffer.lines step.records) :
    Journaled s.buffer.lines made (afterStep store s toAnswer step).session.buffer.lines
      (Event.records (afterStep store s toAnswer step).events) := by
  simpa [afterStep, records_logged] using h

theorem misled_journaled (store : Store) (s : Session) (b : Buffer) (fault : CandidateFault)
    (h : b.lines = s.buffer.lines) :
    Journaled s.buffer.lines false (misled store s b fault).session.buffer.lines
      (Event.records (misled store s b fault).events) := by
  change Journaled _ false (fault.leave b).lines []
  rw [Buffer.leave_lines, h]
  exact .quiet (by simp)

/-- Every operation leaves the lines as they are, or makes one edit and journals it,
as its answer says. -/
theorem perform_journaled (codecs : Registry) (store : Store) (s : Session) (op : Operation) :
    Journaled s.buffer.lines (op.hasChanged (s.perform codecs store op).answer)
      (s.perform codecs store op).session.buffer.lines
      (Event.records (s.perform codecs store op).events) := by
  have hSame : Journaled s.buffer.lines false s.buffer.lines [] := .quiet (by simp)
  cases op with
  | toTop => exact hSame
  | jump offset =>
      change Journaled _ false (s.buffer.jump offset).1.lines []
      rw [Buffer.jump_lines]
      exact hSame
  | seekHaving t => exact afterStep_journaled store s _ (s.buffer.seekHaving_reads t).journaled
  | seekBackHaving t =>
      exact afterStep_journaled store s _ (s.buffer.seekBackHaving_reads t).journaled
  | seekBeing t => exact afterStep_journaled store s _ (s.buffer.seekBeing_reads t).journaled
  | seekBackBeing t =>
      exact afterStep_journaled store s _ (s.buffer.seekBackBeing_reads t).journaled
  | seekAny candidates =>
      simp only [perform]
      split
      · exact hSame
      · split
        next hSeek =>
          exact afterStep_journaled store s _ (Buffer.seekCandidates_reads hSeek).journaled
        next fault _ => exact misled_journaled store s s.buffer fault rfl
  | seekMemberEnd =>
      have hBelow := Buffer.jump_lines 1 s.buffer
      simp only [perform]
      split
      next hSeek =>
        have hReads := Buffer.endAbove_reads (Buffer.seekCandidates_reads hSeek)
        exact afterStep_journaled store s _ (hBelow ▸ hReads.journaled)
      next fault _ => exact misled_journaled store s _ fault hBelow
  | currentView =>
      simp only [perform]
      split <;> exact hSame
  | currentHas t =>
      simp only [perform]
      split <;> exact hSame
  | insertBehindBracket located t opening closing =>
      simp only [perform]
      split
      next hInsert =>
        exact afterStep_journaled store s _ (Buffer.insertBehindBracket_journaled hInsert)
      · exact hSame
  | insertLine t following back =>
      exact afterStep_journaled store s _ (s.buffer.insertLine_journaled t following back)
  | insertNewLine t following back =>
      exact afterStep_journaled store s _ (s.buffer.insertNewLine_journaled t following back)
  | replaceText old new =>
      exact afterStep_journaled store s _ (s.buffer.replaceText_journaled old new)
  | appendText t => exact afterStep_journaled store s _ (s.buffer.appendText_journaled t)
  | write path => exact write_journaled codecs store s path
  | texts => exact hSame
  | views => exact hSame

/-- An operation that changes no line leaves the lines as they are. -/
theorem perform_lines {s : Session} {op : Operation} {codecs : Registry} {store : Store}
    (h : op.hasChanged (s.perform codecs store op).answer = false) :
    (s.perform codecs store op).session.buffer.lines = s.buffer.lines := by
  have hJournaled := perform_journaled codecs store s op
  rw [h] at hJournaled
  exact hJournaled.lines_eq

/-- The session behind the last of some outcomes; without any it is the given one. -/
def after (s : Session) (outcomes : List Outcome) : Session :=
  (outcomes.getLast?.map Outcome.session).getD s

@[simp] theorem after_nil (s : Session) : s.after [] = s := rfl

@[simp] theorem after_cons (s : Session) (outcome : Outcome) (outcomes : List Outcome) :
    s.after (outcome :: outcomes) = outcome.session.after outcomes := by
  rw [after, after, List.getLast?_cons]
  cases outcomes.getLast? <;> rfl

variable {codecs : Registry}

/-- What every operation keeps, whatever its arguments and the store, holds after
each operation of a run. -/
theorem forall_performAll {P : Session → Prop}
    (hStep : ∀ store s op, P s → P (s.perform codecs store op).session) (store : Store)
    (s : Session) (ops : List Operation) (h : P s) :
    ∀ outcome ∈ s.performAll codecs store ops, P outcome.session := by
  induction ops generalizing store s with
  | nil => simp [performAll]
  | cons op ops ih =>
      intro outcome hMem
      have hFirst := hStep store s op h
      rcases List.mem_cons.mp hMem with rfl | hMem
      · exact hFirst
      · exact ih _ _ hFirst outcome hMem

/-- What the operations of a run keep holds behind it. -/
theorem after_performAll_of_mem {P : Session → Prop} {ops : List Operation}
    (hStep : ∀ store s, ∀ op ∈ ops, P s → P (s.perform codecs store op).session) (store : Store)
    {s : Session} (h : P s) : P (s.after (s.performAll codecs store ops)) := by
  induction ops generalizing store s with
  | nil => exact h
  | cons op ops ih =>
      rw [performAll, after_cons]
      exact ih (fun store s op hOp => hStep store s op (List.mem_cons_of_mem _ hOp)) _
        (hStep store s op List.mem_cons_self h)

/-- What every operation keeps holds behind a run. -/
theorem after_performAll {P : Session → Prop}
    (hStep : ∀ store s op, P s → P (s.perform codecs store op).session) (store : Store)
    {s : Session} (ops : List Operation) (h : P s) : P (s.after (s.performAll codecs store ops)) :=
  after_performAll_of_mem (fun store s op _ => hStep store s op) store h

/-- What the operations of a run keep holds where its last operation is carried out. -/
theorem exists_last {P : Session → Prop} {ops : List Operation}
    (hStep : ∀ store s, ∀ op ∈ ops, P s → P (s.perform codecs store op).session) (last : Operation)
    (store : Store) {s : Session} (h : P s) :
    ∃ store' s', P s' ∧
      (s.performAll codecs store (ops ++ [last])).getLast? =
        some (s'.perform codecs store' last) := by
  induction ops generalizing store s with
  | nil => exact ⟨store, s, h, rfl⟩
  | cons op ops ih =>
      have hFirst := hStep store s op List.mem_cons_self h
      obtain ⟨store', s', hKept, hLast⟩ :=
        ih (fun store s op hOp => hStep store s op (List.mem_cons_of_mem _ hOp))
          (s.perform codecs store op).store hFirst
      refine ⟨store', s', hKept, ?_⟩
      rw [List.cons_append, performAll, List.getLast?_cons, hLast]
      rfl

end Session

end Sightline
