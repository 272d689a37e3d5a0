import Sightline.Proofs.Buffer.Mirror
import Sightline.Session.Operation

/-! Where the searches of a session lead. Each finds the nearest line in its direction that is
wanted, the cursor's own included, or leaves the cursor past that end of the buffer; upside down
the two directions are the same. The search for one of several texts leads where the nearest of the
searches for each of them leads. -/
namespace Sightline

/-- What a search wants of a view: to have a text somewhere, or to be one but for the blanks at its
ends. -/
inductive Look where
  | having (t : Text)
  | being (t : Text)

namespace Look

def Wants : Look → Text → Prop
  | having t, view => t <:+: view
  | being t, view => Text.trim view = t

def fits : Look → Text → Bool
  | having t => Buffer.having t
  | being t => Buffer.being t

/-- The search forward. -/
def down : Look → Operation
  | having t => .seekHaving t
  | being t => .seekBeing t

/-- The search backward. -/
def up : Look → Operation
  | having t => .seekBackHaving t
  | being t => .seekBackBeing t

theorem fits_iff (look : Look) (view : Text) : look.fits view = true ↔ look.Wants view := by
  cases look with
  | having t => exact Text.holds_iff
  | being t => exact decide_eq_true_iff

end Look

/-- What a search leaves behind: it answers the index it found, the cursor is there, or at `miss` if
there is none, and nothing else is changed. -/
structure Outcome.Finds (outcome : Outcome) (store : Store) (s : Session) (miss : Int)
    (found : Option Nat) : Prop where
  answer : outcome.answer = .ok (.found found)
  session : outcome.session =
    { s with buffer := { s.buffer with position := found.elim miss Nat.cast } }
  store : outcome.store = store

/-- Some texts as one value. -/
def Value.ofTexts (texts : List Text) : Value := .list (texts.map fun t => .text (String.ofList t))

theorem Buffer.LeastOf.eq_some_iff {indices : Set Nat} {found : Option Nat}
    (h : Buffer.LeastOf indices found) (index : Nat) :
    found = some index ↔ IsLeast indices index := by
  cases found with
  | none =>
      refine iff_of_false nofun fun hLeast => ?_
      exact (h ▸ Set.notMem_empty index) hLeast.1
  | some least =>
      rw [Option.some.injEq]
      exact ⟨fun hSame => hSame ▸ h, fun hLeast => h.unique hLeast⟩

namespace Session

/-- A search forward moves the cursor as its buffer is searched. -/
theorem perform_down (codecs : Registry) (store : Store) (s : Session) (look : Look) :
    ∃ events, s.perform codecs store look.down =
      ⟨store, { s with buffer := (s.buffer.forward look.fits).1 },
        .ok (.found (s.buffer.forward look.fits).2), events⟩ := by
  cases look with
  | having t => exact ⟨_, rfl⟩
  | being t => exact ⟨_, rfl⟩

theorem perform_up (codecs : Registry) (store : Store) (s : Session) (look : Look) :
    ∃ events, s.perform codecs store look.up =
      ⟨store, { s with buffer := (s.buffer.backward look.fits).1 },
        .ok (.found (s.buffer.backward look.fits).2), events⟩ := by
  cases look with
  | having t => exact ⟨_, rfl⟩
  | being t => exact ⟨_, rfl⟩

theorem down_finds {s : Session} {look : Look} {found : Option Nat} (codecs : Registry)
    (store : Store)
    (h : s.buffer.forward look.fits =
      ({ s.buffer with position := found.elim s.buffer.size Nat.cast }, found)) :
    (s.perform codecs store look.down).Finds store s s.buffer.size found := by
  obtain ⟨events, hDown⟩ := perform_down codecs store s look
  rw [hDown, h]
  exact ⟨rfl, rfl, rfl⟩

theorem up_finds {s : Session} {look : Look} {found : Option Nat} (codecs : Registry)
    (store : Store)
    (h : s.buffer.backward look.fits =
      ({ s.buffer with position := found.elim (-1) Nat.cast }, found)) :
    (s.perform codecs store look.up).Finds store s (-1) found := by
  obtain ⟨events, hUp⟩ := perform_up codecs store s look
  rw [hUp, h]
  exact ⟨rfl, rfl, rfl⟩

/-- The searches of a session are exact: forward they find the least wanted index from the cursor
on, backward the greatest up to it, wherever the cursor is; with none the cursor is left behind the
last line or in front of the first. And a search backward is the search forward in the buffer
upside down. -/
theorem searches_exact_and_mirrored (codecs : Registry) (store : Store) (s : Session)
    (look : Look) :
    let b := s.buffer
    let turned : Session := { s with buffer := b.mirrored }
    ∃ below above beyond : Option Nat,
      Buffer.LeastOf (b.ahead look.Wants) below ∧
      (s.perform codecs store look.down).Finds store s b.size below ∧
      Buffer.GreatestOf (b.behind look.Wants) above ∧
      (s.perform codecs store look.up).Finds store s (-1) above ∧
      (turned.perform codecs store look.down).Finds store turned b.size beyond ∧
      above = beyond.map (b.size - 1 - ·) ∧
      (s.perform codecs store look.up).session.buffer =
        (turned.perform codecs store look.down).session.buffer.mirrored := by
  intro b turned
  obtain ⟨below, hBelow, hForward⟩ := Buffer.forward_leastOf look.fits_iff b
  obtain ⟨above, hAbove, hBackward⟩ := Buffer.backward_greatestOf look.fits_iff b
  obtain ⟨beyond, -, hTurned⟩ := Buffer.forward_leastOf look.fits_iff b.mirrored
  have hMirror := Buffer.backward_eq_mirrored look.fits b
  rw [hBackward, hTurned, Prod.mk.injEq] at hMirror
  obtain ⟨hBuffer, hIndex⟩ := hMirror
  have hUp : (s.perform codecs store look.up).Finds store s (-1) above :=
    up_finds codecs store hBackward
  have hDown : (turned.perform codecs store look.down).Finds store turned b.mirrored.size beyond :=
    down_finds codecs store hTurned
  refine ⟨below, above, beyond, hBelow, down_finds codecs store hForward, hAbove, hUp, ?_, hIndex,
    ?_⟩
  · rw [← b.size_mirrored]
    exact hDown
  · rw [hUp.session, hDown.session]
    exact hBuffer

/-- A search for texts comes to no candidate that is none. -/
theorem perform_seekAny (codecs : Registry) (store : Store) (s : Session) (candidates : List Text) :
    s.perform codecs store (.seekAny (.ofTexts candidates)) =
      afterStep store s .candidate (s.buffer.seekAny candidates) := by
  have hTexts : Buffer.misfit? (candidates.map fun t => .text (String.ofList t)) = none ∧
      Buffer.leadingTexts (candidates.map fun t => .text (String.ofList t)) = candidates := by
    induction candidates with
    | nil => exact ⟨rfl, rfl⟩
    | cons t candidates ih =>
        obtain ⟨hMisfit, hLeading⟩ := ih
        rw [List.map_cons, Buffer.misfit?, Buffer.leadingTexts, hLeading, String.toList_ofList]
        exact ⟨hMisfit, rfl⟩
  obtain ⟨hMisfit, hLeading⟩ := hTexts
  simp only [perform, Value.ofTexts, Value.members?, Buffer.seekCandidates, hMisfit, hLeading,
    Buffer.seekAny]

theorem havingAny_iff (candidates : List Text) (view : Text) :
    Buffer.havingAny candidates view = true ↔ ∃ t ∈ candidates, t <:+: view := by
  simp only [Buffer.havingAny, List.any_eq_true, Text.holds_iff]

/-- The search for one text stops at the least index ahead whose view has it. -/
theorem seekHaving_stops_iff (codecs : Registry) (store : Store) (s : Session) (t : Text)
    (index : Nat) :
    (s.perform codecs store (.seekHaving t)).answer = .ok (.found (some index)) ↔
      IsLeast (s.buffer.ahead (t <:+: ·)) index := by
  obtain ⟨found, hFound, hForward⟩ := Buffer.forward_leastOf (Look.having t).fits_iff s.buffer
  have hAnswer : (s.perform codecs store (.seekHaving t)).answer = .ok (.found found) :=
    (down_finds codecs store hForward).answer
  rw [hAnswer, Except.ok.injEq, Answer.found.injEq]
  exact hFound.eq_some_iff index

theorem seekHaving_misses {codecs : Registry} {store : Store} {s : Session} {t : Text}
    (h : s.buffer.ahead (t <:+: ·) = ∅) :
    (s.perform codecs store (.seekHaving t)).answer = .ok (.found none) := by
  obtain ⟨found, hFound, hForward⟩ := Buffer.forward_leastOf (Look.having t).fits_iff s.buffer
  cases found with
  | none => exact (down_finds codecs store hForward).answer
  | some index => exact absurd hFound.1 (h ▸ Set.notMem_empty index)

/-- A line has one of some texts if it is ahead for one of them. -/
theorem mem_ahead_any_iff (b : Buffer) (candidates : List Text) (index : Nat) :
    index ∈ b.ahead (fun view => ∃ t ∈ candidates, t <:+: view) ↔
      ∃ t ∈ candidates, index ∈ b.ahead (t <:+: ·) := by
  simp only [Buffer.mem_ahead_iff, Buffer.WantedAt]
  constructor
  · rintro ⟨hFront, line, hLine, t, hMem, hHas⟩
    exact ⟨t, hMem, hFront, line, hLine, hHas⟩
  · rintro ⟨t, hMem, hFront, line, hLine, hHas⟩
    exact ⟨hFront, line, hLine, t, hMem, hHas⟩

/-- At the nearest line that has one of some texts, the search finds the first text that it has. -/
theorem seekAny_of_least {b : Buffer} {candidates : List Text} {index : Nat}
    (hForward : b.forward (Buffer.havingAny candidates) =
      ({ b with position := index }, some index))
    (hAhead : index ∈ b.ahead fun view => ∃ t ∈ candidates, t <:+: view) :
    ∃ line front t rest, b.lines[index]? = some line ∧ candidates = front ++ t :: rest ∧
      t <:+: line.view ∧ (∀ u ∈ front, ¬u <:+: line.view) ∧
      b.seekAny candidates = ⟨{ b with position := index }, some t, []⟩ := by
  obtain ⟨-, line, hLine, hHas⟩ := Buffer.mem_ahead_iff.mp hAhead
  have hSome : (candidates.find? fun t => Text.holds line.view t).isSome = true :=
    (Buffer.isSome_find?_holds candidates line.view).trans
      ((havingAny_iff candidates line.view).mpr hHas)
  obtain ⟨t, hFirst⟩ := Option.isSome_iff_exists.mp hSome
  obtain ⟨hHolds, front, rest, hParts, hFront⟩ := List.find?_eq_some_iff_append.mp hFirst
  refine ⟨line, front, t, rest, hLine, hParts, Text.holds_iff.mp hHolds, fun u hMem hStands => ?_,
    ?_⟩
  · have hNot := hFront u hMem
    rw [Text.holds_iff.mpr hStands] at hNot
    cases hNot
  · rw [Buffer.seekAny, Buffer.seekShown_at _ hForward hLine, hFirst]

/-- The search for one of several texts agrees with the searches for each of them. It stops where
the first of these stops, and answers the first candidate whose own search stops there; if each of
them misses, as with no candidates, so does it. -/
theorem seekAny_agrees_with_singles (codecs : Registry) (store : Store) (s : Session)
    (candidates : List Text) :
    let outcome := s.perform codecs store (.seekAny (.ofTexts candidates))
    let stopsAt (t : Text) (index : Nat) :=
      (s.perform codecs store (.seekHaving t)).answer = .ok (.found (some index))
    (∃ index front t rest, IsLeast {stop | ∃ u ∈ candidates, stopsAt u stop} index ∧
        candidates = front ++ t :: rest ∧ stopsAt t index ∧ (∀ u ∈ front, ¬stopsAt u index) ∧
        outcome.answer = .ok (.candidate (some t)) ∧
        outcome.session = { s with buffer := { s.buffer with position := index } }) ∨
      ((∀ t ∈ candidates, (s.perform codecs store (.seekHaving t)).answer = .ok (.found none)) ∧
        outcome.answer = .ok (.candidate none) ∧
        outcome.session = { s with buffer := { s.buffer with position := s.buffer.size } }) := by
  intro outcome stopsAt
  have hOutcome : outcome = afterStep store s .candidate (s.buffer.seekAny candidates) :=
    perform_seekAny codecs store s candidates
  obtain ⟨found, hFound, hForward⟩ := Buffer.forward_leastOf (havingAny_iff candidates) s.buffer
  cases found with
  | none =>
      refine .inr ⟨fun t hMem => seekHaving_misses ?_, ?_, ?_⟩
      · refine Set.eq_empty_of_forall_notMem fun index hAhead => ?_
        have hAny := (mem_ahead_any_iff s.buffer candidates index).mpr ⟨t, hMem, hAhead⟩
        exact (hFound ▸ Set.notMem_empty index) hAny
      · rw [hOutcome, afterStep, Buffer.seekAny, Buffer.seekShown, hForward]
      · rw [hOutcome, afterStep, Buffer.seekAny, Buffer.seekShown, hForward]
        rfl
  | some index =>
      obtain ⟨line, front, t, rest, hLine, hParts, hHas, hFront, hSeek⟩ :=
        seekAny_of_least hForward hFound.1
      have hCursor := (Buffer.mem_ahead_iff.mp hFound.1).1
      -- no candidate stops in front of the line, so those that stop at it are those it has
      have hLower (u : Text) (hMem : u ∈ candidates) (stop : Nat)
          (hAhead : stop ∈ s.buffer.ahead (u <:+: ·)) : index ≤ stop :=
        hFound.2 ((mem_ahead_any_iff s.buffer candidates stop).mpr ⟨u, hMem, hAhead⟩)
      have hMem : t ∈ candidates := by simp [hParts]
      have hStops : stopsAt t index := (seekHaving_stops_iff codecs store s t index).mpr
        ⟨Buffer.mem_ahead_iff.mpr ⟨hCursor, line, hLine, hHas⟩, hLower t hMem⟩
      refine .inl ⟨index, front, t, rest, ⟨⟨t, hMem, hStops⟩, ?_⟩, hParts, hStops, ?_, ?_, ?_⟩
      · rintro stop ⟨u, hCandidate, hStop⟩
        exact hLower u hCandidate stop ((seekHaving_stops_iff codecs store s u stop).mp hStop).1
      · intro u hEarlier hStop
        obtain ⟨-, line', hLine', hStands⟩ :=
          Buffer.mem_ahead_iff.mp ((seekHaving_stops_iff codecs store s u index).mp hStop).1
        obtain rfl : line = line' := Option.some.inj (hLine.symm.trans hLine')
        exact hFront u hEarlier hStands
      · rw [hOutcome, afterStep, hSeek]
      · rw [hOutcome, afterStep, hSeek]

end Session

end Sightline
