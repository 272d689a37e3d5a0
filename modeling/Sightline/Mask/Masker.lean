import Sightline.Mask.Lexical
import Sightline.Mask.Token

/-!
Maskers, and the contract between the lines of a file and their search view: as many lines, each
of the same length. A masker is any function on lines, which may fail; what it returns is checked.
-/
namespace Sightline

/-- A way to make search views, under the name that messages give it. -/
structure Masker where
  label : String
  mask : List Text → Except Mask.TokenFault (List Text)

namespace Masker

/-- The masker that hides what some delimiters enclose. -/
def ofDelimiters (ds : DelimiterSet) : Masker where
  label := "DelimiterMasker(" ++
    (Value.list (ds.toList.map fun d => .text (String.ofList d.token))).written ++ ")"
  mask := fun lines => .ok (Mask.lexical ds lines)

/-- The masker that hides the comments and string literals a lexer finds. -/
def ofLexer (lexer : Mask.Lexer) : Masker where
  label := "PygmentsMasker(" ++ Text.quoteString lexer.name ++ ")"
  mask := Mask.tokenwise lexer

end Masker

/-- How a search view can fail to fit its lines. -/
inductive AlignmentFault where
  /-- The view has `views` lines for `lines` lines. -/
  | lineCount (views lines : Nat)
  /-- The line at `index` has `line` characters, its view `view`. -/
  | lineLength (index view line : Nat)
  deriving DecidableEq, Repr

namespace AlignmentFault

/-- The wording of a fault. -/
def message : AlignmentFault → String
  | lineCount views lines =>
    "Masker returned " ++ toString views ++ " lines for " ++ toString lines ++ " input lines"
  | lineLength index view line =>
    "Masked line " ++ toString index ++ " has length " ++ toString view ++ ", raw line has " ++
      toString line

end AlignmentFault

namespace Mask

/-- The first line, counting from `index`, whose view has another length. -/
def lengthFault? (index : Nat) : List Text → List Text → Option AlignmentFault
  | line :: lines, view :: views =>
    if line.length = view.length then lengthFault? (index + 1) lines views
    else some (.lineLength index view.length line.length)
  | _, _ => none

/-- Why a view does not fit its lines, if it does not. -/
def alignmentFault? (lines views : List Text) : Option AlignmentFault :=
  if lines.length = views.length then lengthFault? 0 lines views
  else some (.lineCount views.length lines.length)

end Mask

end Sightline
