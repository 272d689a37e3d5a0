import Sightline.Text.Basic

/-!
Texts by code point. Some numbers among those of the characters, the surrogates, stand for no
character. An escape by number may put one into a text all the same, so that such a text is no list
of characters.
-/
namespace Sightline

/-- A code point: a character, or a surrogate by its number. -/
inductive CodePoint where
  | character (c : Char)
  | surrogate (code : Nat)
  deriving DecidableEq, Repr, Inhabited

namespace CodePoint

/-- The code point with a number. -/
def ofNat (n : Nat) : CodePoint :=
  if 0xD800 ≤ n && n ≤ 0xDFFF then surrogate n else character (Char.ofNat n)

/-- The character that a code point is, if it is one. -/
def character? : CodePoint → Option Char
  | character c => some c
  | surrogate _ => none

/-- The number of a surrogate. -/
def surrogate? : CodePoint → Option Nat
  | character _ => none
  | surrogate code => some code

/-- The code points of a text. -/
def ofText (s : Text) : List CodePoint := s.map character

/-- The characters among some code points. -/
def characters (s : List CodePoint) : Text := s.filterMap character?

@[simp] theorem characters_ofText (s : Text) : characters (ofText s) = s := by
  induction s with
  | nil => rfl
  | cons c rest ih => simp_all [characters, ofText, character?]

/-- Whether code points have a text somewhere. -/
def holds (s : List CodePoint) (t : Text) : Bool :=
  match s with
  | [] => t.isEmpty
  | p :: rest => (ofText t).isPrefixOf (p :: rest) || holds rest t

/-- Where the first surrogates stand, and the numbers of those that follow one another there. -/
def surrogateRun (s : List CodePoint) : Nat × List Nat :=
  let before := s.takeWhile fun p => p.surrogate?.isNone
  (before.length, ((s.drop before.length).takeWhile fun p => p.surrogate?.isSome).filterMap
    surrogate?)

end CodePoint

end Sightline
