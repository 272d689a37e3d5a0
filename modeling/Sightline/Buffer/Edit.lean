import Sightline.Buffer.Basic
import Sightline.Text.Quoted

/-!
Edits, as they are written into the journal. Every successful change of a buffer leaves exactly one
of them there, and applying them in order to the lines at the start gives the lines at the end.
-/
namespace Sightline

/-- A change of the lines of a buffer. -/
inductive Edit where
  /-- Puts a text into a line at a column. -/
  | splice (line column : Nat) (text : Text)
  /-- Puts a line that hides nothing in front of the line at an index. -/
  | insert (line : Nat) (text : Text)
  /-- Replaces every occurrence of a text in a line. -/
  | replace (line : Nat) (old new : Text)
  /-- Puts a text at the end of a line. -/
  | append (line : Nat) (text : Text)
  deriving DecidableEq, Repr

namespace Edit

/-- What the journal says of an edit. -/
def message : Edit → String
  | splice line column text =>
    "splice line=" ++ toString line ++ " col=" ++ toString column ++ " text=" ++ Text.quote text
  | insert line text => "insert line=" ++ toString line ++ " text=" ++ Text.quote text
  | replace line old new =>
    "replace line=" ++ toString line ++ " " ++ Text.quote old ++ " -> " ++ Text.quote new
  | append line text => "append line=" ++ toString line ++ " text=" ++ Text.quote text

/-- The record of an edit. -/
def record (e : Edit) : Record := ⟨.edits, .debug, e.message⟩

/-- The lines after an edit. -/
def apply (lines : List Line) : Edit → List Line
  | splice line column text => lines.modify line fun l => l.splice column text
  | insert line text => lines.insertIdx line (.plain text)
  | replace line old new => lines.modify line fun l => l.replace old new
  | append line text => lines.modify line fun l => l.append text

end Edit

end Sightline
