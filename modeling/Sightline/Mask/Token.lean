import Sightline.Text.Basic

/-!
The search view made from a lexer's tokens. Comments are blanked unless they are directives for a
preprocessor; string literals are blanked except for a quote at either end. Tokens may come in any
order, overlap and reach past the end; line breaks are never touched. An offset below zero counts
from the end of the text, and one that lies before its start is a fault.
-/
namespace Sightline.Mask

/-- The kind of a token: the path to it from the root of the hierarchy of kinds. -/
abbrev TokenKind := List String

namespace TokenKind

/-- The comments. -/
def comment : TokenKind := ["Comment"]

/-- The comments that are directives. -/
def directive : TokenKind := ["Comment", "Preproc"]

/-- The string literals. -/
def stringLiteral : TokenKind := ["Literal", "String"]

/-- The kind that a dotted name's components lead to. At the root, `Token` is the root itself, and
the literals for strings and numbers have short names of their own. -/
def ofComponents : List String → TokenKind
  | "Token" :: rest => ofComponents rest
  | "String" :: rest => "Literal" :: "String" :: rest
  | "Number" :: rest => "Literal" :: "Number" :: rest
  | path => path

/-- A kind lies at or below another in the hierarchy. -/
def under (kind family : TokenKind) : Bool := family.isPrefixOf kind

end TokenKind

/-- A token of a lexer: where it starts in the text, its kind, and the characters it stands for. -/
structure Token where
  start : Int
  kind : TokenKind
  value : Text
  deriving DecidableEq, Repr, Inhabited

/-- Something that finds the tokens of a text. -/
structure Lexer where
  name : String
  tokens : Text → List Token

namespace Token

/-- Whether a character is a quote at the end of a literal. -/
def isQuoteMark (c : Char) : Bool := c = '"' || c = '\''

/-- The offsets that a token hides, from the first up to but not including the second. -/
def hiddenRange (t : Token) : Int × Int :=
  let stop := t.start + t.value.length
  if t.kind.under .directive then (t.start, t.start)
  else if t.kind.under .comment then (t.start, stop)
  else if t.kind.under .stringLiteral then
    (if (t.value.head?.any isQuoteMark) then t.start + 1 else t.start,
     if 1 < t.value.length && (t.value.getLast?.any isQuoteMark) then stop - 1 else stop)
  else (t.start, t.start)

end Token

/-- Why what some tokens hide cannot be blanked. -/
inductive TokenFault where
  /-- A token lies before the start of the text. -/
  | beforeStart
  /-- A token lies before every offset that a text can have. -/
  | noOffset
  deriving DecidableEq, Repr

namespace TokenFault

/-- The wording of a fault. -/
def message : TokenFault → String
  | beforeStart => "list index out of range"
  | noOffset => "cannot fit 'int' into an index-sized integer"

end TokenFault

/-- The least number that is an offset at all. -/
def leastOffset : Int := -9223372036854775808

/-- Whether a number lies between two others, the second excluded. -/
def isWithin (start stop k : Int) : Bool := start ≤ k && k < stop

/-- The text with fillers at the offsets from `start` up to `stop`, line breaks excepted. A place in
the text has two offsets, one from its start and one, below zero, from its end. -/
def blankRange (start stop : Int) (s : Text) : Except TokenFault Text :=
  if start < -s.length && start < stop then
    .error (if start < leastOffset then .noOffset else .beforeStart)
  else .ok (s.mapIdx fun k c =>
    if (isWithin start stop k || isWithin start stop (k - s.length)) && c != '\n' then ' ' else c)

/-- The text with what some tokens hide blanked, one token after the other. -/
def blankTokens (tokens : List Token) (s : Text) : Except TokenFault Text :=
  tokens.foldlM (fun s t => blankRange t.hiddenRange.1 t.hiddenRange.2 s) s

/-- The text a lexer reads for some lines: the lines with a line break after each, so that a rule
for line comments can close on the last line. No lines are not read at all. -/
def lexerInput? (lines : List Text) : Option Text :=
  if lines.isEmpty then none else some (Text.join ['\n'] lines ++ ['\n'])

/-- The search view of a file made from the tokens of its lexer. -/
def tokenwise (lexer : Lexer) (lines : List Text) : Except TokenFault (List Text) :=
  match lexerInput? lines with
  | none => .ok []
  | some input =>
    (blankTokens (lexer.tokens input) (Text.join ['\n'] lines)).map (Text.splitOn '\n')

end Sightline.Mask
