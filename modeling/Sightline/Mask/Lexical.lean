import Sightline.Mask.Delimiter
import Sightline.Text.Search

/-!
The lexical search view of a C-like source. Comments are blanked with their marks, literals are
blanked between their quotes, everything else is kept; a character is replaced, never removed, so
columns agree. Only a block comment reaches past the end of its line.

The scan works in strides: it looks ahead for the end of a comment or of a literal and blanks
everything up to there at once.
-/
namespace Sightline.Mask

/-- What stands in place of a hidden character. -/
def filler : Char := ' '

/-- As many fillers as the text has characters. -/
def blanked (s : Text) : Text := List.replicate s.length filler

@[simp] theorem length_blanked (s : Text) : (blanked s).length = s.length := by
  simp [blanked]

/-- How many characters follow an opening quote before its closing one, or before the end of the
line. A backslash and the character after it never close. -/
def literalLength (mark : Char) : Text → Nat
  | [] => 0
  | c :: rest =>
    if c = mark then 0
    else if c = '\\' then
      match rest with
      | [] => 1
      | _ :: rest' => literalLength mark rest' + 2
    else literalLength mark rest + 1

theorem literalLength_le (mark : Char) (s : Text) : literalLength mark s ≤ s.length := by
  fun_induction literalLength mark s <;> simp only [List.length_cons, List.length_nil] <;> omega

/-- Whether a character opens a literal. -/
def isQuote (ds : DelimiterSet) (c : Char) : Bool :=
  (c = '"' && ds.doubleQuote) || (c = '\'' && ds.singleQuote)

/-- The view of the rest of a line, read from inside a block comment or from code, and whether a
block comment is open at its end. The mark that opens a block comment has no part in closing it. -/
def scan (ds : DelimiterSet) (inBlock : Bool) (s : Text) : Text × Bool :=
  match s with
  | [] => ([], inBlock)
  | c :: rest =>
    if inBlock then
      match Text.find? ['*', '/'] (c :: rest) with
      | none => (blanked (c :: rest), true)
      | some k =>
        let (view, after) := scan ds false (rest.drop (k + 1))
        (blanked ((c :: rest).take (k + 2)) ++ view, after)
    else if ds.lineComment && ['/', '/'].isPrefixOf (c :: rest) then
      (blanked (c :: rest), false)
    else if ds.blockComment && ['/', '*'].isPrefixOf (c :: rest) then
      let (view, after) := scan ds true (rest.drop 1)
      (blanked ((c :: rest).take 2) ++ view, after)
    else if isQuote ds c then
      let n := literalLength c rest
      let (view, after) := scan ds false (rest.drop (n + 1))
      (c :: blanked (rest.take n) ++ (rest.drop n).take 1 ++ view, after)
    else
      let (view, after) := scan ds false rest
      (c :: view, after)
  termination_by s.length
  decreasing_by all_goals simp only [List.length_cons, List.length_drop]; omega

/-- The views of some lines, the first of which starts inside a block comment if `inBlock`. -/
def scanLines (ds : DelimiterSet) : (inBlock : Bool) → List Text → List Text
  | _, [] => []
  | inBlock, s :: rest =>
    let (view, after) := scan ds inBlock s
    view :: scanLines ds after rest

/-- The lexical search view of a file. -/
def lexical (ds : DelimiterSet) (lines : List Text) : List Text := scanLines ds false lines

end Sightline.Mask
