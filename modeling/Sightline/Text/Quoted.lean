import Sightline.Text.CodePoint
import Sightline.Text.Hidden

/-!
Quoted texts, as they appear in log records and in the wording of faults: one line, in single
quotes unless the text holds a single quote and no double quote, with everything that would not
show on a terminal written as an escape.
-/
namespace Sightline.Text

/-- The character of one hexadecimal digit, in lower case. -/
def hexDigit (n : Nat) : Char :=
  if n < 10 then Char.ofNat (48 + n) else Char.ofNat (87 + n)

/-- The last `width` hexadecimal digits of a number. -/
def hex : (width : Nat) → Nat → Text
  | 0, _ => []
  | width + 1, n => hex width (n / 16) ++ [hexDigit (n % 16)]

/-- A code point by number: two digits below 256, four below 65536, else eight. -/
def escapeCode (n : Nat) : Text :=
  if n < 0x100 then ['\\', 'x'] ++ hex 2 n
  else if n < 0x10000 then ['\\', 'u'] ++ hex 4 n
  else ['\\', 'U'] ++ hex 8 n

/-- The mark a text is quoted with. -/
def quoteMark (s : Text) : Char :=
  if s.contains '\'' && !s.contains '"' then '"' else '\''

/-- One character between quotes of the given mark. -/
def quoteChar (mark c : Char) : Text :=
  if c = mark || c = '\\' then ['\\', c]
  else if c = '\n' then ['\\', 'n']
  else if c = '\r' then ['\\', 'r']
  else if c = '\t' then ['\\', 't']
  else if isHidden c then escapeCode c.toNat
  else [c]

/-- The quoted form of a text. -/
def quoted (s : Text) : Text :=
  let mark := quoteMark s
  mark :: s.flatMap (quoteChar mark) ++ [mark]

/-- The quoted form of a text, ready for a message. -/
def quote (s : Text) : String := String.ofList (quoted s)

/-- The quoted form of a string. -/
def quoteString (s : String) : String := quote s.toList

/-- One code point between quotes of the given mark. -/
def quotePoint (mark : Char) : CodePoint → Text
  | .character c => quoteChar mark c
  | .surrogate code => escapeCode code

/-- The quoted form of some code points, ready for a message. -/
def quotePoints (s : List CodePoint) : String :=
  let mark := quoteMark (CodePoint.characters s)
  String.ofList (mark :: s.flatMap (quotePoint mark) ++ [mark])

end Sightline.Text
