import Sightline.Setting.Value

/-!
What can be wrong with a settings document. A problem is told together with its place; a breach
stops the reader before it can say where it was.
-/
namespace Sightline.Setting

/-- Something that the rules for documents do not allow. -/
inductive Problem where
  | keyAlone (atEnd : Bool)
  | strangeKeyCharacter (c : Char)
  | openQuotes
  | openString
  | noKey
  | loneBracket
  | crowdedHeader
  | strangeName (name : String)
  | openName (name : String)
  | noName
  | repeatedTable (name present : String)
  | impliedList
  | brokenInline
  | inlineWithoutValue
  | strangeInlineValue
  | strangeBareValue
  | repeatedKey
  | noValue
  | capitalBoolean
  | tokensBehindString
  | strangeEscape
  | badCode (code : String)
  | surrogateCode (code : String)
  | beyondUnicode
  | hourBounds
  | minuteBounds
  | secondBounds
  | looseZeroes
  | noFraction
  | noLeadingDigit
  | mixedList
  | notWhole (digits : String)
  | longWhole (count : Nat)
  | notFloating (digits : String)
  deriving DecidableEq, Repr

namespace Problem

/-- The wording of a problem. A text that is no whole number is told by the first 200 characters of
its quoted form. -/
def message : Problem → String
  | keyAlone atEnd =>
    "Key name found without value. Reached end of " ++ (if atEnd then "file." else "line.")
  | strangeKeyCharacter c =>
    "Found invalid character in key name: '" ++ String.singleton c ++
      "'. Try quoting the key name."
  | openQuotes => "Unbalanced quotes"
  | openString => "Unterminated string found. Reached end of file."
  | noKey => "Found empty keyname. "
  | loneBracket => "Opening key group bracket on line by itself."
  | crowdedHeader => "Key group not on a line by itself."
  | strangeName name => "Invalid group name '" ++ name ++ "'. Try quoting it."
  | openName name => "Invalid group name '" ++ name ++ "' Something went wrong."
  | noName => "Can't have a keygroup with an empty name"
  | repeatedTable name present => "What? " ++ name ++ " already exists?" ++ present
  | impliedList => "An implicitly defined table can't be an array"
  | brokenInline => "Line breaks are not allowed in inlineobjects"
  | inlineWithoutValue => "Invalid inline table encountered"
  | strangeInlineValue => "Invalid inline table value encountered"
  | strangeBareValue => "Invalid date or number"
  | repeatedKey => "Duplicate keys!"
  | noValue => "Empty value is invalid"
  | capitalBoolean => "Only all lowercase booleans allowed"
  | tokensBehindString => "Found tokens after a closed string. Invalid TOML."
  | strangeEscape => "Reserved escape sequence used"
  | badCode code => "Invalid escape sequence: " ++ code
  | surrogateCode code =>
    "Invalid escape sequence: " ++ code ++ ". Only scalar unicode points are allowed."
  | beyondUnicode => "chr() arg not in range(0x110000)"
  | hourBounds => "hour must be in 0..23"
  | minuteBounds => "minute must be in 0..59"
  | secondBounds => "second must be in 0..59"
  | looseZeroes => "Weirdness with leading zeroes or underscores in your number."
  | noFraction => "This float is missing digits after the point"
  | noLeadingDigit => "This float doesn't have a leading digit"
  | mixedList => "Not a homogeneous array"
  | notWhole digits =>
    "invalid literal for int() with base 0: " ++
      String.ofList ((Text.quoted digits.toList).take 200)
  | longWhole count =>
    "Exceeds the limit (4300 digits) for integer string conversion: value has " ++
      toString count ++ " digits; use sys.set_int_max_str_digits() to increase the limit"
  | notFloating digits => "could not convert string to float: " ++ Text.quoteString digits

end Problem

/-- What stops the reader without a place. -/
inductive Breach where
  /-- A text ends before the character that is needed. -/
  | shortText
  /-- A list ends before the item that is needed. -/
  | shortList
  /-- A list is asked for what stands under a name. -/
  | listByName
  /-- A text is asked for what stands under a name. -/
  | textByName
  /-- Something is to be put into a text under a name. -/
  | textChanged
  /-- A value of this kind holds nothing that could be asked for. -/
  | noContents (kind : String)
  /-- A value of this kind cannot be looked through for a name. -/
  | noNames (kind : String)
  /-- Nothing can be added at the end of a value of this kind. -/
  | noEnd (kind : String)
  /-- A code of a character is beyond 31 bits. -/
  | hugeCode
  /-- A text that goes on below its line has the empty name. -/
  | namelessText
  /-- A whole number has no decimal numeral to be told with. -/
  | unwritable
  /-- What stands in the place of a moment stops its reading. -/
  | moment (fault : Moment.Fault)
  deriving DecidableEq, Repr

namespace Breach

/-- The kind of error that a breach shows as. -/
def kind : Breach → String
  | shortText => "IndexError"
  | shortList => "IndexError"
  | noEnd _ => "AttributeError"
  | hugeCode => "OverflowError"
  | namelessText => "UnboundLocalError"
  | unwritable => "ValueError"
  | moment .hugeFraction => "OverflowError"
  | _ => "TypeError"

/-- The wording of a breach. -/
def message : Breach → String
  | shortText => "string index out of range"
  | shortList => "list index out of range"
  | listByName => "list indices must be integers or slices, not str"
  | textByName => "string indices must be integers, not 'str'"
  | textChanged => "'str' object does not support item assignment"
  | noContents kind => "'" ++ kind ++ "' object is not subscriptable"
  | noNames kind => "argument of type '" ++ kind ++ "' is not iterable"
  | noEnd kind => "'" ++ kind ++ "' object has no attribute 'append'"
  | hugeCode => "Python int too large to convert to C int"
  | namelessText =>
    "cannot access local variable 'value' where it is not associated with a value"
  | unwritable => Numeral.unwritable
  | moment .hugeFraction => "int too large to convert to float"

end Breach

/-- Why a part of a document cannot be read. -/
inductive PartFault where
  | problem (p : Problem)
  | breach (b : Breach)
  deriving DecidableEq, Repr

/-- A place in a text: line and column from one, offset from nought. -/
structure Place where
  line : Nat
  column : Nat
  offset : Nat
  deriving DecidableEq, Repr

/-- The place of an offset in a text. -/
def Place.ofOffset (s : Text) (offset : Nat) : Place :=
  let before := s.take offset
  ⟨before.count '\n' + 1, (before.reverse.takeWhile (· != '\n')).length + 1, offset⟩

/-- Why a document cannot be read. -/
inductive DocumentFault where
  | problem (p : Problem) (place : Place)
  | breach (b : Breach)
  deriving DecidableEq, Repr

namespace DocumentFault

/-- The wording of a fault. -/
def message : DocumentFault → String
  | problem p place =>
    p.message ++ " (line " ++ toString place.line ++ " column " ++ toString place.column ++
      " char " ++ toString place.offset ++ ")"
  | breach b => b.message

/-- The fault of a part of the document `s` that starts at an offset. -/
def ofPart (s : Text) (offset : Nat) : PartFault → DocumentFault
  | .problem p => .problem p (.ofOffset s offset)
  | .breach b => .breach b

end DocumentFault

end Sightline.Setting
