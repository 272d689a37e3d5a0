import Sightline.Log.Setup
import Sightline.Proofs.Store.NullFree

/-! The files that a setup opens. Opening one does not depend on the handler that it is opened for,
and a path without the null character is only refused for what the store has or does not have. -/
namespace Sightline.Log
open Sightline.Path

/-- Opens a log file, making its directory if that is missing: its full path and its place. -/
def openPlace (s : Store) (path : String) : Store × Except PathFault (String × Location) :=
  let made :=
    if directory path = "" || s.exists? (directory path) then (s, none)
    else makeDirectories ((directory path).length + 1) s (directory path)
  match made with
  | (s, some fault) => (s, .error fault)
  | (s, none) =>
    match s.openForWriting (s.fullPath path) with
    | .error fault => (s, .error fault)
    | .ok place => (s.put place ((s.content? place).getD []), .ok (s.fullPath path, place))

variable {store made : Store} {path : String}

/-- The handler is put together from the place that is opened and what it is opened with. -/
theorem openLogFile_eq (store : Store) (path : String) (maxBytes backups : Nat) (level : Int)
    (layout : Layout) : openLogFile store path maxBytes backups level layout =
      ((openPlace store path).1, (openPlace store path).2.map fun (full, place) =>
        ⟨.file full place maxBytes backups, level, layout⟩) := by
  rw [openLogFile, openPlace]
  dsimp only
  generalize (if directory path = "" || store.exists? (directory path) then (store, none)
    else makeDirectories ((directory path).length + 1) store (directory path)) = made
  obtain ⟨made, fault | fault⟩ := made
  · dsimp only
    cases made.openForWriting (made.fullPath path) <;> rfl
  · rfl

/-- What making directories may come to: the working directory stays where it is, and a path
without the null character is only refused for what is in the way. -/
def Obstructed (store : Store) (path : String) (made : Store × Option PathFault) : Prop :=
  made.1.top = store.top ∧ (NullFree path → made.2 ≠ some .nullCharacter)

theorem Obstructed.none (h : made.top = store.top) : Obstructed store path (made, none) :=
  ⟨h, fun _ => Option.some_ne_none _ |>.symm⟩

/-- The last directory is made once those above it are there. -/
theorem Obstructed.last (hTop : made.top = store.top) (isThere : Bool) :
    Obstructed store path
      (if isThere then (made, Option.none)
      else match made.makeDirectory path with
        | .ok last => (last, Option.none)
        | .error fault => (made, some fault)) := by
  split_ifs
  · exact .none hTop
  · have hNull (hPath : NullFree path) := Store.makeDirectory_ne_nullCharacter made hPath
    cases hMade : made.makeDirectory path with
    | ok last => exact .none ((Store.top_makeDirectory hMade).trans hTop)
    | error fault =>
        refine ⟨hTop, fun hPath hFault => hNull hPath ?_⟩
        rw [hMade, Option.some.inj hFault]

theorem makeDirectories_obstructed (depth : Nat) (store : Store) (path : String) :
    Obstructed store path (makeDirectories depth store path) := by
  induction depth generalizing store path with
  | zero => exact ⟨rfl, fun _ h => by cases h⟩
  | succ depth ih =>
      rw [makeDirectories]
      dsimp only
      generalize hParts :
        (if (split path).2 = "" then split (split path).1 else split path) = parts
      have hHead (h : NullFree path) : NullFree parts.1 := by
        rw [← hParts]
        split_ifs
        · exact h.directory.directory
        · exact h.directory
      by_cases hThere : (parts.1 = "" || parts.2 = "" || store.exists? parts.1) = true
      · simp only [if_pos hThere]
        exact .last rfl false
      · simp only [if_neg hThere]
        obtain ⟨hTop, hNull⟩ := ih store parts.1
        generalize makeDirectories depth store parts.1 = above at hTop hNull ⊢
        obtain ⟨above, fault | fault⟩ := above
        · exact .last hTop _
        · cases fault with
          | exists_ => exact .last hTop _
          | _ => exact ⟨hTop, fun h => hNull (hHead h)⟩

/-- The directory of a log file is made before the file itself is opened. -/
theorem directory_obstructed (store : Store) (path : String)
    {made : Store × Option PathFault} (h : (if directory path = "" ||
      store.exists? (directory path) then (store, none)
      else makeDirectories ((directory path).length + 1) store (directory path)) = made) :
    Obstructed store (directory path) made := by
  rw [← h]
  split_ifs
  · exact .none rfl
  · exact makeDirectories_obstructed _ _ _

theorem top_openPlace (store : Store) (path : String) :
    (openPlace store path).1.top = store.top := by
  rw [openPlace]
  split
  next hFault => exact (directory_obstructed store path hFault).1
  next made hOpen =>
    have hTop := (directory_obstructed store path hOpen).1
    split
    · exact hTop
    · exact (Store.top_put _ _ _).trans hTop

/-- A path without the null character is open for a log file, or something is in the way. -/
theorem openPlace_ne_nullCharacter (hTop : NullFree store.top) (h : NullFree path) :
    (openPlace store path).2 ≠ .error .nullCharacter := by
  rw [openPlace]
  split
  next made fault hFault =>
    have hNull := (directory_obstructed store path hFault).2 h.directory
    simpa using hNull
  next made hOpen =>
    have hPath : NullFree (made.fullPath path) :=
      Store.nullFree_fullPath ((directory_obstructed store path hOpen).1 ▸ hTop) h
    have hPlace := Store.openForWriting_ne_nullCharacter made hPath
    cases hOpened : made.openForWriting (made.fullPath path) with
    | ok place => simp
    | error fault => simpa [hOpened] using hPlace

end Sightline.Log
