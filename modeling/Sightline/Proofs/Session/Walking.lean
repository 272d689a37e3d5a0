import Mathlib.Data.List.Sort
import Sightline.Proofs.Session.Searching

/-! Walking from match to match. A search finds the cursor's own line again, so a walk moves on by
a line behind every match, and the answer of that move is what ends it on the last line or the
first. From the top down and from the last line up each wanted line is visited once, in order. -/
namespace Sightline

/-- The members of a set of indices, each of them once, in increasing order. -/
structure Lists (indices : Set Nat) (visited : List Nat) : Prop where
  ordered : visited.Pairwise (· < ·)
  mem_iff : ∀ index, index ∈ visited ↔ index ∈ indices

theorem lists_nil {indices : Set Nat} (h : indices = ∅) : Lists indices [] :=
  ⟨.nil, fun index => by simp [h]⟩

theorem Lists.cons {indices : Set Nat} {least : Nat} {rest : List Nat}
    (hLeast : IsLeast indices least) (h : Lists {index ∈ indices | least < index} rest) :
    Lists indices (least :: rest) := by
  refine ⟨List.pairwise_cons.mpr ⟨fun index hMem => ((h.mem_iff index).mp hMem).2, h.ordered⟩,
    fun index => ?_⟩
  rw [List.mem_cons, h.mem_iff]
  constructor
  · rintro (rfl | ⟨hMem, -⟩)
    · exact hLeast.1
    · exact hMem
  · intro hMem
    obtain hSame | hBehind := (hLeast.2 hMem).eq_or_lt
    · exact .inl hSame.symm
    · exact .inr ⟨hMem, hBehind⟩

/-- Indices upside down are listed upside down. -/
theorem Lists.mirrored {indices turned : Set Nat} {visited : List Nat} {n : Nat}
    (h : Lists turned visited) (hTurned : ∀ index ∈ turned, index < n)
    (hMem : ∀ index, index ∈ indices ↔ index < n ∧ n - 1 - index ∈ turned) :
    Lists indices (visited.map (n - 1 - ·)).reverse := by
  refine ⟨?_, fun index => ?_⟩
  · rw [List.pairwise_reverse, List.pairwise_map]
    refine h.ordered.imp_of_mem fun {i j} _ hj hLt => ?_
    have := hTurned j ((h.mem_iff j).mp hj)
    omega
  · rw [List.mem_reverse, List.mem_map, hMem]
    constructor
    · rintro ⟨j, hj, rfl⟩
      have hIn := (h.mem_iff j).mp hj
      have hLt := hTurned j hIn
      rw [show n - 1 - (n - 1 - j) = j by omega]
      exact ⟨by omega, hIn⟩
    · rintro ⟨hLt, hIn⟩
      exact ⟨n - 1 - index, (h.mem_iff _).mpr hIn, by omega⟩

namespace Session

/-- What is left behind by a search and a move of the cursor after it. -/
def moveOn (codecs : Registry) (store : Store) (s : Session) (search : Operation) (offset : Int) :
    Outcome :=
  let reached := s.perform codecs store search
  reached.session.perform codecs reached.store (.jump offset)

/-- A run of the loop that searches, notes the index it finds, and moves on by an offset, as long
as the search finds a line and the cursor moves all the way. The list holds the indices in the
order in which they are noted. A run is finite: a loop that never ends, or one of whose operations
fails, has none. -/
inductive Walks (codecs : Registry) (search : Operation) (offset : Int) :
    Store → Session → List Nat → Prop where
  | miss {store : Store} {s : Session}
      (hMiss : (s.perform codecs store search).answer = .ok (.found none)) :
      Walks codecs search offset store s []
  | stop {store : Store} {s : Session} {index : Nat}
      (hFound : (s.perform codecs store search).answer = .ok (.found (some index)))
      (hStop : (s.moveOn codecs store search offset).answer = .ok (.flag false)) :
      Walks codecs search offset store s [index]
  | on {store : Store} {s : Session} {index : Nat} {rest : List Nat}
      (hFound : (s.perform codecs store search).answer = .ok (.found (some index)))
      (hOn : (s.moveOn codecs store search offset).answer = .ok (.flag true))
      (hRest : Walks codecs search offset (s.moveOn codecs store search offset).store
        (s.moveOn codecs store search offset).session rest) :
      Walks codecs search offset store s (index :: rest)

/-- What a walk visits is determined by where it starts. -/
theorem Walks.unique {codecs : Registry} {search : Operation} {offset : Int} {store : Store}
    {s : Session} {visited visited' : List Nat} (h : Walks codecs search offset store s visited)
    (h' : Walks codecs search offset store s visited') : visited = visited' := by
  induction h generalizing visited' with
  | miss hMiss =>
      cases h' with
      | miss => rfl
      | stop hFound | on hFound => cases hMiss.symm.trans hFound
  | stop hFound hStop =>
      cases h' with
      | miss hMiss => cases hMiss.symm.trans hFound
      | stop hFound' =>
          cases hFound.symm.trans hFound'
          rfl
      | on _ hOn => cases hStop.symm.trans hOn
  | on hFound hOn _ ih =>
      cases h' with
      | miss hMiss => cases hMiss.symm.trans hFound
      | stop _ hStop => cases hStop.symm.trans hOn
      | on hFound' _ hRest =>
          cases hFound.symm.trans hFound'
          rw [ih hRest]

/-- The session with its buffer upside down. -/
def turned (s : Session) : Session := { s with buffer := s.buffer.mirrored }

theorem moveOn_down (codecs : Registry) (store : Store) (s : Session) (look : Look) :
    ∃ events, s.moveOn codecs store look.down 1 =
      ⟨store, { s with buffer := ((s.buffer.forward look.fits).1.jump 1).1 },
        .ok (.flag ((s.buffer.forward look.fits).1.jump 1).2), events⟩ := by
  obtain ⟨events, hDown⟩ := perform_down codecs store s look
  rw [moveOn, hDown]
  exact ⟨_, rfl⟩

theorem moveOn_up (codecs : Registry) (store : Store) (s : Session) (look : Look) :
    ∃ events, s.moveOn codecs store look.up (-1) =
      ⟨store, { s with buffer := ((s.buffer.backward look.fits).1.jump (-1)).1 },
        .ok (.flag ((s.buffer.backward look.fits).1.jump (-1)).2), events⟩ := by
  obtain ⟨events, hUp⟩ := perform_up codecs store s look
  rw [moveOn, hUp]
  exact ⟨_, rfl⟩

/-- A walk down from the cursor comes to its end, and visits each wanted line from there on. -/
theorem exists_walk_down (codecs : Registry) (look : Look) (store : Store) (s : Session) :
    ∃ visited, Walks codecs look.down 1 store s visited ∧
      Lists (s.buffer.ahead look.Wants) visited := by
  -- behind every match that is not on the last line there is less of the buffer left
  induction hLeft : (s.buffer.size - s.buffer.position).toNat using Nat.strong_induction_on
    generalizing s with
  | _ left ih =>
  obtain ⟨found, hFound, hForward⟩ := Buffer.forward_leastOf look.fits_iff s.buffer
  have hAnswer : (s.perform codecs store look.down).answer = .ok (.found found) :=
    (down_finds codecs store hForward).answer
  cases found with
  | none => exact ⟨[], .miss hAnswer, lists_nil hFound⟩
  | some index =>
      obtain ⟨hFront, hInside, -⟩ := hFound.1
      obtain ⟨events, hMoved⟩ := moveOn_down codecs store s look
      rw [hForward, Option.elim_some, Buffer.jump_on hInside] at hMoved
      by_cases hNext : index + 1 < s.buffer.size
      · rw [if_pos hNext] at hMoved
        obtain ⟨rest, hRest, hLists⟩ := ih _ (by simp only [Buffer.size] at *; omega)
          { s with buffer := { s.buffer with position := (index + 1 : Nat) } } rfl
        rw [Buffer.ahead_succ (by omega)] at hLists
        exact ⟨index :: rest, .on hAnswer (by rw [hMoved]) (by rwa [hMoved]), .cons hFound hLists⟩
      · rw [if_neg hNext] at hMoved
        refine ⟨[index], .stop hAnswer (by rw [hMoved]), .cons hFound (lists_nil ?_)⟩
        refine Set.eq_empty_of_forall_notMem ?_
        rintro j ⟨⟨-, hBehind, -⟩, hAfter⟩
        omega

/-- A search up finds what a search down finds in the buffer upside down. -/
theorem perform_up_of_turned {codecs : Registry} {store : Store} {s : Session} {look : Look}
    {found : Option Nat}
    (h : (s.turned.perform codecs store look.down).answer = .ok (.found found)) :
    (s.perform codecs store look.up).answer = .ok (.found (found.map (s.buffer.size - 1 - ·))) := by
  obtain ⟨_, hDown⟩ := perform_down codecs store s.turned look
  obtain ⟨_, hUp⟩ := perform_up codecs store s look
  obtain rfl : (s.buffer.mirrored.forward look.fits).2 = found := by
    rw [hDown] at h
    exact Answer.found.inj (Except.ok.inj h)
  rw [hUp, Buffer.backward_eq_mirrored]

theorem size_pos_of_found {codecs : Registry} {store : Store} {s : Session} {look : Look}
    {index : Nat} (h : (s.perform codecs store look.down).answer = .ok (.found (some index))) :
    0 < s.buffer.size := by
  obtain ⟨found, hFound, hForward⟩ := Buffer.forward_leastOf look.fits_iff s.buffer
  obtain rfl : found = some index :=
    Answer.found.inj (Except.ok.inj ((down_finds codecs store hForward).answer.symm.trans h))
  exact Nat.zero_lt_of_lt hFound.1.2.1

/-- Behind a line that is found the cursor moves up as it moves down upside down. -/
theorem moveOn_up_of_turned {codecs : Registry} {store : Store} {s : Session} {look : Look}
    {index : Nat}
    (h : (s.turned.perform codecs store look.down).answer = .ok (.found (some index))) :
    let up := s.moveOn codecs store look.up (-1)
    let down := s.turned.moveOn codecs store look.down 1
    up.answer = down.answer ∧ up.store = down.store ∧ up.session.turned = down.session ∧
      up.session.buffer.size = s.buffer.size := by
  obtain ⟨_, hDown⟩ := moveOn_down codecs store s.turned look
  obtain ⟨_, hUp⟩ := moveOn_up codecs store s look
  have hSize : (s.buffer.mirrored.forward look.fits).1.size = s.buffer.size := by
    rw [Buffer.size, Buffer.forward_lines]
    exact s.buffer.size_mirrored
  have hSome : 0 < s.turned.buffer.size := size_pos_of_found h
  have hJump := Buffer.jump_mirrored (b := (s.buffer.mirrored.forward look.fits).1)
    (by rwa [hSize, ← s.buffer.size_mirrored])
  rw [Buffer.backward_eq_mirrored, hJump] at hUp
  rw [hUp, hDown]
  refine ⟨rfl, rfl, ?_, ?_⟩
  · simp only [turned, Buffer.mirrored_mirrored]
  · simp only [Buffer.size_mirrored]
    rw [Buffer.size, Buffer.jump_lines]
    exact hSize

/-- A walk up is a walk down in the buffer upside down. -/
theorem Walks.upward {codecs : Registry} {look : Look} {store : Store} {s : Session}
    {visited : List Nat}
    (h : Walks codecs look.down 1 store s.turned visited) :
    Walks codecs look.up (-1) store s (visited.map (s.buffer.size - 1 - ·)) := by
  generalize hTurned : s.turned = t at h
  induction h generalizing s with
  | miss hMiss =>
      subst hTurned
      exact .miss (perform_up_of_turned hMiss)
  | stop hFound hStop =>
      subst hTurned
      obtain ⟨hAnswer, -⟩ := moveOn_up_of_turned hFound
      exact .stop (perform_up_of_turned hFound) (hAnswer.trans hStop)
  | on hFound hOn _ ih =>
      subst hTurned
      obtain ⟨hAnswer, hStore, hSession, hSize⟩ := moveOn_up_of_turned hFound
      have hRest := ih hSession
      rw [hSize, ← hStore] at hRest
      exact .on (perform_up_of_turned hFound) (hAnswer.trans hOn) hRest

/-- A walk up from the cursor comes to its end, and visits each wanted line up to there. -/
theorem exists_walk_up (codecs : Registry) (look : Look) (store : Store) (s : Session) :
    ∃ visited, Walks codecs look.up (-1) store s visited.reverse ∧
      Lists (s.buffer.behind look.Wants) visited := by
  obtain ⟨visited, hWalk, hLists⟩ := exists_walk_down codecs look store s.turned
  refine ⟨(visited.map (s.buffer.size - 1 - ·)).reverse, ?_, hLists.mirrored ?_ ?_⟩
  · rw [List.reverse_reverse]
    exact hWalk.upward
  · rintro index ⟨-, hInside, -⟩
    rwa [← s.buffer.size_mirrored]
  · exact fun index => Buffer.mem_behind_iff

/-- Walks from match to match visit every wanted line exactly once. From the top down they visit
them in increasing order, and from the last line up, which the cursor may be on or behind, in
decreasing order. Both come to their end, and visit nothing else. -/
theorem walks_visit_each_once (codecs : Registry) (store : Store) (s : Session) (look : Look) :
    ∃ visited : List Nat, visited.Pairwise (· < ·) ∧
      (∀ index, index ∈ visited ↔ s.buffer.WantedAt look.Wants index) ∧
      (∀ indices, Walks codecs look.down 1 store (s.perform codecs store .toTop).session indices ↔
        indices = visited) ∧
      ∀ last : Int, s.buffer.size - 1 ≤ last → ∀ indices,
        Walks codecs look.up (-1) store
            { s with buffer := { s.buffer with position := last } } indices ↔
          indices = visited.reverse := by
  let top : Session := (s.perform codecs store .toTop).session
  have hTop (index : Nat) : index ∈ top.buffer.ahead look.Wants ↔
      s.buffer.WantedAt look.Wants index :=
    Buffer.mem_ahead_iff.trans (and_iff_right (Int.natCast_nonneg index))
  obtain ⟨visited, hDown, hAhead⟩ := exists_walk_down codecs look store top
  refine ⟨visited, hAhead.ordered, fun index => (hAhead.mem_iff index).trans (hTop index),
    fun indices => ⟨fun h => h.unique hDown, fun h => h ▸ hDown⟩, fun last hLast indices => ?_⟩
  let bottom : Session := { s with buffer := { s.buffer with position := last } }
  have hBottom (index : Nat) : index ∈ bottom.buffer.behind look.Wants ↔
      s.buffer.WantedAt look.Wants index := by
    refine ⟨fun h => h.2, fun h => ⟨?_, h⟩⟩
    have hInside := h.lt_size
    change (index : Int) ≤ min last (s.buffer.size - 1)
    omega
  obtain ⟨listed, hUp, hBehind⟩ := exists_walk_up codecs look store bottom
  obtain rfl : visited = listed := hAhead.ordered.eq_of_mem_iff hBehind.ordered fun index => by
    rw [hAhead.mem_iff, hBehind.mem_iff, hTop, hBottom]
  exact ⟨fun h => h.unique hUp, fun h => h ▸ hUp⟩

/-- A session on three lines, with the call in the middle one inside a comment. -/
def calling : Session :=
  ⟨.ofLines [.plain "f();".toList, ⟨"g(); // f()".toList, "g();       ".toList⟩,
    .plain "f(f());".toList], none, .null, .ofDelimiters .standard, []⟩

/-- The call in the comment is passed by on both ways, and two calls in a line are one visit. -/
theorem hidden_call_passed_by :
    let bottom : Session := { calling with buffer := { calling.buffer with position := 2 } }
    (calling.buffer.size : Int) - 1 ≤ 2 ∧
      Walks .common (.seekHaving ['f', '(']) 1 (.empty "/")
        (calling.perform .common (.empty "/") .toTop).session [0, 2] ∧
      Walks .common (.seekBackHaving ['f', '(']) (-1) (.empty "/") bottom [2, 0] := by
  intro bottom
  have hLast : (calling.buffer.size : Int) - 1 ≤ 2 := by decide
  obtain ⟨visited, -, -, hDown, hUp⟩ :=
    walks_visit_each_once .common (.empty "/") calling (.having ['f', '('])
  have hWalk : Walks .common (.seekHaving ['f', '(']) 1 (.empty "/")
      (calling.perform .common (.empty "/") .toTop).session [0, 2] := .on rfl rfl (.stop rfl rfl)
  obtain rfl : [0, 2] = visited := (hDown _).mp hWalk
  exact ⟨hLast, hWalk, (hUp 2 hLast _).mpr rfl⟩

end Session

end Sightline
