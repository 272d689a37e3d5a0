import Sightline.Text.Basic

/-!
Substring search. `find?` gives the least offset at which a pattern stands; its bound
`find?_bound` is what every scan that restarts behind a hit uses to end.
-/
namespace Sightline.Text

/-- The least offset at which `pattern` stands in a text. The empty pattern stands at offset 0. -/
def find? (pattern : Text) : Text → Option Nat
  | [] => if pattern.isEmpty then some 0 else none
  | c :: rest =>
    if pattern.isPrefixOf (c :: rest) then some 0 else (find? pattern rest).map (· + 1)

/-- The text has `pattern` somewhere. -/
def holds (s pattern : Text) : Bool := (find? pattern s).isSome

/-- How many times `pattern` stands in a text, from left to right and without overlap, once `pass`
characters have been passed. -/
def countFrom (pattern : Text) : (pass : Nat) → Text → Nat
  | _, [] => 0
  | pass + 1, _ :: rest => countFrom pattern pass rest
  | 0, c :: rest =>
    if pattern.isPrefixOf (c :: rest) then countFrom pattern (pattern.length - 1) rest + 1
    else countFrom pattern 0 rest

/-- How many times `pattern` stands in a text, from left to right and without overlap. -/
def countOf (pattern s : Text) : Nat := countFrom pattern 0 s

/-- Cuts a text around the occurrence of `pattern` that comes after `skip` others, counted from left
to right and without overlap, once `pass` characters have been passed. -/
def cutFrom (pattern : Text) : (skip pass : Nat) → Text → Option (Text × Text)
  | _, _, [] => none
  | skip, pass + 1, c :: rest =>
    (cutFrom pattern skip pass rest).map fun cut => (c :: cut.1, cut.2)
  | skip, 0, c :: rest =>
    if pattern.isPrefixOf (c :: rest) then
      match skip with
      | 0 => some ([], (c :: rest).drop pattern.length)
      | skip + 1 =>
        (cutFrom pattern skip (pattern.length - 1) rest).map fun cut => (c :: cut.1, cut.2)
    else (cutFrom pattern skip 0 rest).map fun cut => (c :: cut.1, cut.2)

/-- What stands in front of and behind the occurrence of `pattern` that has `skip` before it. -/
def cutAt? (pattern : Text) (skip : Nat) (s : Text) : Option (Text × Text) :=
  cutFrom pattern skip 0 s

/-- The pattern that is found stands at the offset that is returned. -/
theorem isPrefixOf_drop_of_find? {pattern s : Text} {k : Nat} (h : find? pattern s = some k) :
    pattern.isPrefixOf (s.drop k) = true := by
  induction s generalizing k with
  | nil =>
    cases pattern with
    | nil => simp
    | cons p ps => simp [find?] at h
  | cons c rest ih =>
    rw [find?] at h
    split at h
    next hp =>
      cases h
      simpa only [List.drop_zero] using hp
    next =>
      obtain ⟨j, hj, rfl⟩ := Option.map_eq_some_iff.1 h
      simpa using ih hj

/-- A hit ends inside the text. -/
theorem find?_bound {pattern s : Text} {k : Nat} (h : find? pattern s = some k) :
    k + pattern.length ≤ s.length := by
  induction s generalizing k with
  | nil =>
    cases pattern with
    | nil =>
      have : 0 = k := by simpa [find?] using h
      subst this
      simp
    | cons p ps => simp [find?] at h
  | cons c rest ih =>
    rw [find?] at h
    split at h
    next hp =>
      cases h
      simpa using (List.isPrefixOf_iff_prefix.1 hp).length_le
    next =>
      obtain ⟨j, hj, rfl⟩ := Option.map_eq_some_iff.1 h
      have := ih hj
      simp only [List.length_cons]
      omega

/-- A pattern that a text starts with is found at once. -/
theorem find?_of_startsWith {pattern s : Text} (h : pattern <+: s) : find? pattern s = some 0 := by
  cases s with
  | nil => rw [List.prefix_nil.1 h, find?, List.isEmpty_nil, if_pos rfl]
  | cons c rest => rw [find?, if_pos (List.isPrefixOf_iff_prefix.2 h)]

theorem find?_cons_of_not_startsWith {pattern rest : Text} {c : Char} (h : ¬pattern <+: c :: rest) :
    find? pattern (c :: rest) = (find? pattern rest).map (· + 1) := by
  rw [find?, if_neg fun hp => h (List.isPrefixOf_iff_prefix.1 hp)]

/-- The offset that is returned is the least one at which the pattern stands. -/
theorem find?_eq_some_iff {pattern s : Text} {k : Nat} :
    find? pattern s = some k ↔ pattern <+: s.drop k ∧ ∀ j < k, ¬pattern <+: s.drop j := by
  induction s generalizing k with
  | nil =>
    cases pattern with
    | nil =>
      cases k with
      | zero => simp [find?]
      | succ k => exact ⟨nofun, fun h => absurd (List.nil_prefix) (h.2 0 (Nat.succ_pos k))⟩
    | cons p ps => simp [find?]
  | cons c rest ih =>
    by_cases hHere : pattern <+: c :: rest
    · rw [find?_of_startsWith hHere]
      cases k with
      | zero => simp [hHere]
      | succ k => exact ⟨nofun, fun h => absurd hHere (h.2 0 (Nat.succ_pos k))⟩
    · rw [find?_cons_of_not_startsWith hHere]
      cases k with
      | zero => simp [hHere]
      | succ k =>
        simp only [Option.map_eq_some_iff, Nat.add_right_cancel_iff, exists_eq_right, ih,
          List.drop_succ_cons]
        refine and_congr_right fun _ => ⟨fun h j hj => ?_, fun h j hj => ?_⟩
        · cases j with
          | zero => exact hHere
          | succ j => exact h j (Nat.lt_of_succ_lt_succ hj)
        · exact h (j + 1) (Nat.succ_lt_succ hj)

/-- A text is searched in vain exactly if the pattern stands nowhere in it. -/
theorem find?_eq_none_iff {pattern s : Text} : find? pattern s = none ↔ ¬pattern <:+: s := by
  induction s with
  | nil =>
    cases pattern with
    | nil => simp [find?]
    | cons p ps => simp [find?]
  | cons c rest ih =>
    rw [List.infix_cons_iff, not_or]
    by_cases hHere : pattern <+: c :: rest
    · simp [find?_of_startsWith hHere, hHere]
    · simp [find?_cons_of_not_startsWith hHere, hHere, ih]

theorem holds_iff {s pattern : Text} : holds s pattern = true ↔ pattern <:+: s := by
  rw [holds, Option.isSome_iff_ne_none, Ne, find?_eq_none_iff, Decidable.not_not]

end Sightline.Text
