import Sightline.Buffer.Edit

/-!
Putting text behind the bracket that closes an opening one. The scan counts brackets in the views,
from behind the opening bracket over the following lines, until as many have closed as have opened.
-/
namespace Sightline

/-- The text that is to locate an opening bracket does not end with it. -/
structure BracketFault where
  bracket : Text
  deriving DecidableEq, Repr

/-- The wording of the fault. -/
def BracketFault.message (fault : BracketFault) : String :=
  "parameter match should end with the open bracket to be matched (" ++
    Text.quote fault.bracket ++ ")"

namespace Buffer

/-- How many brackets are open behind a character, if `depth` were before it. -/
def bracketDepth (opening closing : Text) (depth : Nat) (c : Char) : Nat :=
  if [c] = opening then depth + 1 else if [c] = closing then depth - 1 else depth

/-- Looks in the rest of a view, of which the first character is in `column`, for the place where
no bracket is open any more: the column behind it, or how many are open at the end. -/
def closeInView (opening closing : Text) : (depth column : Nat) → Text → Nat ⊕ Nat
  | depth, _, [] => .inr depth
  | depth, column, c :: rest =>
    match bracketDepth opening closing depth c with
    | 0 => .inl (column + 1)
    | depth + 1 => closeInView opening closing (depth + 1) (column + 1) rest

/-- Looks for that place in whole views, of which the first is at `index`: the index of its line and
the column behind it. -/
def closeInViews (opening closing : Text) : (depth index : Nat) → List Text → Option (Nat × Nat)
  | _, _, [] => none
  | depth, index, view :: views =>
    match closeInView opening closing depth 0 view with
    | .inl column => some (index, column)
    | .inr depth => closeInViews opening closing depth (index + 1) views

/-- Where the bracket closes that is opened right before `column` of the line at `index`. -/
def closingPlace (opening closing : Text) (index column : Nat) (views : List Text) :
    Option (Nat × Nat) :=
  match views.drop index with
  | [] => none
  | view :: rest =>
    match closeInView opening closing 1 column (view.drop column) with
    | .inl column => some (index, column)
    | .inr depth => closeInViews opening closing depth (index + 1) rest

/-- The name under which this operation reports. -/
def bracketName : String := "insert_text_after_matching_bracket: "

/-- Puts a text behind the bracket that closes the one at the end of the first occurrence of
`located` on the cursor's line, and moves the cursor there; tells whether it could. Nothing is put
behind hidden text of the same line. -/
def insertBehindBracket (located s opening closing : Text) (b : Buffer) :
    Except BracketFault (Step Bool) :=
  if !opening.isSuffixOf located then .error ⟨opening⟩
  else
    let refuse (level : Level) (why : String) : Except BracketFault (Step Bool) :=
      .ok ⟨b, false, [.note level (bracketName ++ why)]⟩
    match b.current? with
    | none => .ok ⟨b, false, []⟩
    | some line =>
      let start := b.position.toNat
      match Text.find? located line.view with
      | none => refuse .debug (Text.quote located ++ " not on line " ++ toString start ++ ".")
      | some k =>
        match closingPlace opening closing start (k + located.length) b.views with
        | none =>
          refuse .debug ("no " ++ Text.quote closing ++ " for " ++ Text.quote located ++ ".")
        | some (index, column) =>
          match b.lines[index]? with
          | none => .ok ⟨b, false, []⟩
          | some target =>
            if target.text.take column ≠ target.view.take column then
              refuse .warning ("refusing edit on line " ++ toString index ++
                ", raw and masked text differ before the insertion point.")
            else
              .ok ⟨⟨b.lines.set index (target.splice column s), index⟩, true,
                [(Edit.splice index column s).record]⟩

end Buffer

end Sightline
