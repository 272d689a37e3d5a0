/-!
Text as a list of code points. Every length, column and offset of the library counts code points,
so a column of a line is an index into its list.
-/
namespace Sightline

/-- A line, a search pattern or a whole file, code point by code point. -/
abbrev Text := List Char

namespace Text

/-- The blank characters: those that trimming removes and that make up an indentation. -/
def isBlank (c : Char) : Bool :=
  let n := c.toNat
  (9 ≤ n && n ≤ 13) || (28 ≤ n && n ≤ 32) || n == 0x85 || n == 0xA0 || n == 0x1680 ||
    (0x2000 ≤ n && n ≤ 0x200A) || n == 0x2028 || n == 0x2029 || n == 0x202F || n == 0x205F ||
    n == 0x3000

/-- Text without its leading blanks. -/
def trimLeft (s : Text) : Text := s.dropWhile isBlank

/-- Text without its trailing blanks. -/
def trimRight (s : Text) : Text := (s.reverse.dropWhile isBlank).reverse

/-- Text without the blanks at either end. -/
def trim (s : Text) : Text := trimRight (trimLeft s)

/-- The blanks a line starts with. -/
def indentation (s : Text) : Text := s.takeWhile isBlank

/-- A line falls into its indentation and the rest. -/
theorem indentation_append_trimLeft (s : Text) : indentation s ++ trimLeft s = s :=
  List.takeWhile_append_dropWhile

/-- The pieces between the occurrences of one separating character. There is always at least one
piece, and joining the pieces with the separator gives the text back. -/
def splitOn (separator : Char) : Text → List Text
  | [] => [[]]
  | c :: rest =>
    if c = separator then [] :: splitOn separator rest
    else match splitOn separator rest with
      | [] => [[c]]
      | piece :: pieces => (c :: piece) :: pieces

/-- The texts with `between` put between neighbours. -/
def join (between : Text) : List Text → Text
  | [] => []
  | [s] => s
  | s :: t :: rest => s ++ between ++ join between (t :: rest)

/-- Whether a text holds the character with number zero. -/
def holdsNull (s : Text) : Bool := s.contains (Char.ofNat 0)

theorem splitOn_ne_nil (separator : Char) (s : Text) : splitOn separator s ≠ [] := by
  cases s with
  | nil => simp [splitOn]
  | cons c rest =>
    rw [splitOn]
    split
    · simp
    · split <;> simp

end Text

end Sightline
