import Sightline.Text.Basic

/-!
Line ends. Reading takes a line feed, a carriage return, or one followed by the other for the end of
a line, and nothing else; a last line may lack its end. Writing ends every line with a line feed.
-/
namespace Sightline.Text

/-- The text with every line end written as a line feed. -/
def normalizeEnds : Text → Text
  | [] => []
  | '\r' :: '\n' :: rest => '\n' :: normalizeEnds rest
  | '\r' :: rest => '\n' :: normalizeEnds rest
  | c :: rest => c :: normalizeEnds rest

/-- The lines of a text in which every line end is a line feed. Nothing behind the last line feed
is no line. -/
def records : Text → List Text
  | [] => []
  | c :: rest =>
    if c = '\n' then [] :: records rest
    else match records rest with
      | [] => [[c]]
      | line :: lines => (c :: line) :: lines

/-- The lines of the text of a file. -/
def linesOf (s : Text) : List Text := records (normalizeEnds s)

/-- The text with some lines, each ended by a line feed. -/
def endLines (lines : List Text) : Text := lines.flatMap (· ++ ['\n'])

end Sightline.Text
