import Sightline.Proofs.Buffer.Bracket
import Sightline.Proofs.Line.Columns
import Sightline.Session.Operation

/-! Putting a text behind the bracket that closes. Between two brackets that differ
the operation succeeds exactly when that bracket is there and in sight; it then
changes one line and the position, and else nothing. -/
namespace Sightline.Session
variable {opening closing : Char}

/-- The session after a text is put in behind a column of its line at `index`. -/
def putBehind (s : Session) (index column : Nat) (target : Line) (t : Text) : Session :=
  { s with buffer :=
    ⟨s.buffer.lines.set index (target.take (column + 1) ++ .plain t ++ target.drop (column + 1)),
      index⟩ }

/-- The operation puts its text behind a bracket that closes in sight, or there is
no such bracket and it answers so. -/
theorem perform_insertBehindBracket_cases (codecs : Registry) (store : Store) (s : Session)
    {located : Text} (t : Text)
    (hEnds : [opening] <:+ located) (hDistinct : opening ≠ closing) :
    (∃ w rest index column target events,
      s.buffer.ClosesInSight located opening closing w rest index column target ∧
      s.perform codecs store (.insertBehindBracket located t [opening] [closing]) =
        ⟨store, s.putBehind index column target t, .ok (.flag true), events⟩) ∨
    ((∀ w rest index column target,
        ¬s.buffer.ClosesInSight located opening closing w rest index column target) ∧
      ∃ events, s.perform codecs store (.insertBehindBracket located t [opening] [closing]) =
        ⟨store, s, .ok (.flag false), events⟩) := by
  have hSuffix : List.isSuffixOf [opening] located = true := List.isSuffixOf_iff_suffix.mpr hEnds
  rcases s.buffer.insertBehindBracket_cases t [closing] hSuffix with
    ⟨index, column, target, site, hStep⟩ | ⟨hNone, records, _, hStep⟩
  · obtain ⟨w, rest, bracket, rfl, sight⟩ := (Buffer.spliceSite_iff hDistinct _ _ _ _ _).mp site
    refine Or.inl ⟨w, rest, index, bracket, target,
      [.logged (Edit.splice index (bracket + 1) t).record], sight, ?_⟩
    rw [perform, hStep, Line.splice_eq]
    rfl
  · refine Or.inr ⟨fun w rest index column target sight => ?_, records.map .logged, ?_⟩
    · have site := (Buffer.spliceSite_iff hDistinct _ _ _ _ _).mpr ⟨w, rest, column, rfl, sight⟩
      exact hNone index (column + 1) target site
    · rw [perform, hStep]
      rfl

/-- The operation answers that it found the bracket exactly when the views behind
`located` fall into a balanced text, the closing bracket and a rest, and nothing is
hidden on the line up to the bracket. Then its text stands behind the bracket and
the cursor is on that line; else the session is what it was. -/
theorem insertBehindBracket_exact (codecs : Registry) (store : Store) (s : Session)
    (located t : Text) (hEnds : [opening] <:+ located) (hDistinct : opening ≠ closing) :
    let outcome := s.perform codecs store (.insertBehindBracket located t [opening] [closing])
    (outcome.answer = .ok (.flag true) ↔ ∃ w rest index column target,
      s.buffer.ClosesInSight located opening closing w rest index column target) ∧
    (∀ w rest index column target,
      s.buffer.ClosesInSight located opening closing w rest index column target →
      target.text[column]? = some closing ∧ target.view[column]? = some closing ∧
        outcome.session = s.putBehind index column target t) ∧
    (outcome.answer ≠ .ok (.flag true) →
      outcome.answer = .ok (.flag false) ∧ outcome.session = s) ∧
    outcome.store = store ∧
    ∀ w rest index column w' rest' index' column',
      s.buffer.ClosesAt located opening closing w rest index column →
      s.buffer.ClosesAt located opening closing w' rest' index' column' →
      w = w' ∧ rest = rest' ∧ index = index' ∧ column = column' := by
  intro outcome
  rcases perform_insertBehindBracket_cases codecs store s t hEnds hDistinct with
    ⟨w, rest, index, column, target, events, sight, hOutcome⟩ | ⟨hNone, events, hOutcome⟩
  · have hAnswer : outcome.answer = .ok (.flag true) := by rw [show outcome = _ from hOutcome]
    refine ⟨⟨fun _ => ⟨w, rest, index, column, target, sight⟩, fun _ => hAnswer⟩, ?_,
      fun hNot => absurd hAnswer hNot, congrArg Outcome.store hOutcome,
      fun _ _ _ _ _ _ _ _ h h' => h.unique hDistinct h'⟩
    intro w' rest' index' column' target' sight'
    obtain ⟨rfl, rfl, rfl, rfl⟩ := sight.closes.unique hDistinct sight'.closes
    obtain rfl : target = target' := Option.some.inj (sight.line.symm.trans sight'.line)
    exact ⟨sight.closing_at.1, sight.closing_at.2, congrArg Outcome.session hOutcome⟩
  · have hAnswer : outcome.answer = .ok (.flag false) := by rw [show outcome = _ from hOutcome]
    refine ⟨⟨fun hFound => ?_, fun ⟨w, rest, index, column, target, sight⟩ => ?_⟩,
      fun w rest index column target sight => absurd sight (hNone w rest index column target),
      fun _ => ⟨hAnswer, congrArg Outcome.session hOutcome⟩, congrArg Outcome.store hOutcome,
      fun _ _ _ _ _ _ _ _ h h' => h.unique hDistinct h'⟩
    · cases hAnswer.symm.trans hFound
    · exact absurd sight (hNone w rest index column target)

/-- A session on a call that goes over three lines, with a bracket in a comment. -/
def spread : Session :=
  ⟨.ofLines [.plain "f(a,".toList, ⟨"g(b), // )".toList, "g(b),     ".toList⟩,
    .plain "c) + 1".toList], none, .null, .ofDelimiters .standard, []⟩

/-- The call is closed on its third line. -/
theorem spread_closesInSight : spread.buffer.ClosesInSight ['f', '('] '(' ')'
    "a,g(b),     c".toList " + 1".toList 2 1 (.plain "c) + 1".toList) := by
  have hBalanced : Buffer.Balanced '(' ')' "a,g(b),     c".toList := ⟨DyckWord.nest 0, rfl⟩
  refine ⟨⟨by decide, .plain "f(a,".toList, 0, rfl, ?_, by simp, ?_, hBalanced, ?_⟩, rfl, rfl⟩
  · decide
  · decide
  · decide

/-- The text is put behind the bracket of the call, not the one in the comment. -/
theorem spread_insertBehindBracket :
    [('(' : Char)] <:+ ['f', '('] ∧ '(' ≠ ')' ∧
      let outcome := spread.perform .common (.empty "/")
        (.insertBehindBracket ['f', '('] ['!'] ['('] [')'])
      outcome.answer = .ok (.flag true) ∧ outcome.session.buffer.position = 2 ∧
        outcome.session.buffer.texts =
          ["f(a,".toList, "g(b), // )".toList, "c)! + 1".toList] := by
  have hEnds : [('(' : Char)] <:+ ['f', '('] := by decide
  obtain ⟨hFound, hInserted, -⟩ :=
    insertBehindBracket_exact .common (.empty "/") spread ['f', '('] ['!'] hEnds
      (by decide : '(' ≠ ')')
  refine ⟨hEnds, by decide, hFound.mpr ⟨_, _, _, _, _, spread_closesInSight⟩, ?_⟩
  rw [(hInserted _ _ _ _ _ spread_closesInSight).2.2]
  exact ⟨rfl, rfl⟩

end Sightline.Session
