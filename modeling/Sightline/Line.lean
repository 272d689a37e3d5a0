import Sightline.Text.Search

/-!
A line of a buffer: its text and its search view. Every edit of a line cuts both at the same
columns and puts the same text into both, so the columns of the two stay in step. What counts as an
occurrence of a text has to stand in both.
-/
namespace Sightline

/-- A line: the text that is written to disk, and the view that searches see. -/
structure Line where
  text : Text
  view : Text
  deriving DecidableEq, Repr, Inhabited

namespace Text

/-- The index at which an offset cuts a text. A negative offset counts from the end, and an offset
past either end stands for that end. -/
def cutIndex (s : Text) (offset : Int) : Nat :=
  if offset < 0 then (s.length + offset).toNat else min offset.toNat s.length

/-- The text with `new` put in at an offset. -/
def insertAt (s : Text) (offset : Int) (new : Text) : Text :=
  s.take (s.cutIndex offset) ++ new ++ s.drop (s.cutIndex offset)

/-- What is left of a text from column `start` on, with `new` in place of the `width` characters at
each of some offsets, which are given in increasing order and without overlap. -/
def substituteFrom (width : Nat) (new : Text) : (start : Nat) → List Nat → Text → Text
  | _, [], s => s
  | start, offset :: offsets, s =>
    s.take (offset - start) ++ new ++
      substituteFrom width new (offset + width) offsets (s.drop (offset - start + width))

/-- The text with `new` in place of the `width` characters at each of some offsets. -/
def substituteAt (s : Text) (width : Nat) (new : Text) (offsets : List Nat) : Text :=
  substituteFrom width new 0 offsets s

end Text

namespace Line

/-- A line that hides nothing. -/
def plain (s : Text) : Line := ⟨s, s⟩

/-- Text and view have the same length. -/
def Aligned (l : Line) : Prop := l.view.length = l.text.length

instance (l : Line) : Decidable l.Aligned := inferInstanceAs (Decidable (_ = _))

/-- The line with `new` put in at an offset, in text and view. -/
def splice (l : Line) (offset : Int) (new : Text) : Line :=
  ⟨l.text.insertAt offset new, l.view.insertAt offset new⟩

/-- The line with `new` at its end. -/
def append (l : Line) (new : Text) : Line := ⟨l.text ++ new, l.view ++ new⟩

/-- The offsets of `c :: old` in what is left of a line behind its first `offset` columns: those
found in the view that the text confirms. A confirmed hit is skipped as a whole, another one by a
single column. -/
def occurrencesFrom (c : Char) (old : Text) (text view : Text) (offset : Nat) : List Nat :=
  match h : Text.find? (c :: old) view with
  | none => []
  | some k =>
    have hBound := Text.find?_bound h
    if (c :: old).isPrefixOf (text.drop k) then
      (offset + k) ::
        occurrencesFrom c old (text.drop (k + old.length + 1)) (view.drop (k + old.length + 1))
          (offset + k + old.length + 1)
    else
      occurrencesFrom c old (text.drop (k + 1)) (view.drop (k + 1)) (offset + k + 1)
  termination_by view.length
  decreasing_by all_goals
    simp only [List.length_cons, List.length_drop] at hBound ⊢
    omega

/-- The offsets, from left to right and without overlap, at which text and view both hold `old`.
The empty text occurs nowhere. -/
def occurrences (l : Line) : (old : Text) → List Nat
  | [] => []
  | c :: old => occurrencesFrom c old l.text l.view 0

/-- The line with `new` in place of every occurrence of `old`, in text and view. -/
def replace (l : Line) (old new : Text) : Line :=
  let offsets := l.occurrences old
  ⟨l.text.substituteAt old.length new offsets, l.view.substituteAt old.length new offsets⟩

end Line

end Sightline
