import Sightline.Setting.Document.Fault
import Sightline.Text.Search

/-!
Scalars of a settings document: strings with their escapes, moments, and numbers.
-/
namespace Sightline.Setting.Literal

/-- A text without its first and its last character. -/
def inside {α : Type} (s : List α) : List α := (s.drop 1).dropLast

/-- Whether an odd number of backslashes ends a text. -/
def endsEscaped (s : Text) : Bool := (s.reverse.takeWhile (· == '\\')).length % 2 == 1

/-- Checks that a string closes once and that nothing follows. The pieces are what stands between
its quotes; `triple` tells a string with three quotes at its start. -/
def checkClosed (triple : Bool) : (closed : Bool) → (quotes : Nat) → List Text →
    Except PartFault Unit
  | _, _, [] => .ok ()
  | closed, quotes, [] :: pieces =>
    if triple then checkClosed triple closed (quotes + 1) pieces
    else checkClosed triple true quotes pieces
  | closed, quotes, piece :: pieces =>
    if endsEscaped piece then checkClosed triple closed quotes pieces
    else if closed then .error (.problem .tokensBehindString)
    else if !triple || 1 < quotes then checkClosed triple true quotes pieces
    else checkClosed triple closed 0 pieces

/-- What an escape of one letter stands for. -/
def escapeMeaning? : Char → Option Char
  | '0' => some (Char.ofNat 0)
  | 'b' => some (Char.ofNat 8)
  | 'f' => some (Char.ofNat 12)
  | 'n' => some '\n'
  | 'r' => some '\r'
  | 't' => some '\t'
  | '"' => some '"'
  | _ => none

/-- Checks the letter behind each backslash; the pieces are what stands between backslashes. -/
def checkEscapes : (escaped : Bool) → List Text → Except PartFault Unit
  | _, [] => .ok ()
  | escaped, [] :: pieces => checkEscapes (!escaped) pieces
  | escaped, (c :: _) :: pieces =>
    if (escapeMeaning? c).isNone && c != 'u' && c != 'U' && !escaped then
      .error (.problem .strangeEscape)
    else checkEscapes false pieces

/-- The code point of a code in hexadecimal digits. A surrogate is refused only where its code has
no noughts in front. -/
def codePoint (code : Text) : Except PartFault CodePoint :=
  let shown := String.ofList code
  if code.any fun c => (Numeral.hexValue? c).isNone then .error (.problem (.badCode shown))
  else match code with
    | [] => .error (.breach .shortText)
    | ['d'] => .error (.breach .shortText)
    | c :: rest =>
      if c = 'd' && rest.head?.any (fun d => !('0' ≤ d && d ≤ '7')) then
        .error (.problem (.surrogateCode shown))
      else
        let n := (Numeral.digits? 16 code).getD 0
        if 0x80000000 ≤ n then .error (.breach .hugeCode)
        else if 0x110000 ≤ n then .error (.problem .beyondUnicode)
        else .ok (.ofNat n)

/-- The pieces between the occurrences of a backslash followed by a letter. -/
def splitAtEscape (letter : Char) : Text → List Text
  | [] => [[]]
  | '\\' :: c :: rest =>
    if c = letter then [] :: splitAtEscape letter rest
    else match splitAtEscape letter (c :: rest) with
      | [] => [['\\']]
      | piece :: pieces => ('\\' :: piece) :: pieces
  | c :: rest =>
    match splitAtEscape letter rest with
    | [] => [[c]]
    | piece :: pieces => (c :: piece) :: pieces

/-- Puts the pieces between code escapes together again, each escape replaced by its code point
unless `skip` tells that its backslash is itself escaped. Codes are read in small letters. -/
def decodeCodes (letter : Char) (width : Nat) : (skip : Bool) → List Text →
    Except PartFault (List CodePoint)
  | _, [] => .ok []
  | true, piece :: pieces =>
    (decodeCodes letter width (endsEscaped piece) pieces).map
      (CodePoint.ofText ('\\' :: letter :: piece) ++ ·)
  | false, piece :: pieces =>
    match codePoint (Text.lower (piece.take width)) with
    | .error fault => .error fault
    | .ok p =>
      (decodeCodes letter width false pieces).map
        (p :: CodePoint.ofText (piece.drop width) ++ ·)

/-- Replaces the code escapes with one letter. -/
def decodeCodesOf (letter : Char) (width : Nat) (s : Text) : Except PartFault (List CodePoint) :=
  match splitAtEscape letter s with
  | [] => .ok []
  | first :: pieces =>
    (decodeCodes letter width (endsEscaped first) pieces).map (CodePoint.ofText first ++ ·)

/-- Replaces the code escapes of both lengths. The short codes come first; none of them is a
surrogate. -/
def decodeAllCodes (s : Text) : Except PartFault (List CodePoint) := do
  let s ← decodeCodesOf 'u' 4 s
  decodeCodesOf 'U' 8 (CodePoint.characters s)

/-- Replaces the escapes of one letter. -/
def unescape : List CodePoint → Except PartFault (List CodePoint)
  | [] => .ok []
  | [p] => .ok [p]
  | .character '\\' :: p :: rest =>
    match p.character?.bind escapeMeaning? with
    | some d => (unescape rest).map (.character d :: ·)
    | none =>
      if p = .character '\\' then (unescape rest).map (p :: ·)
      else if p = .character 'u' || p = .character 'U' then
        (unescape rest).map ([.character '\\', p] ++ ·)
      else .error (.problem .strangeEscape)
  | p :: rest => (unescape rest).map (p :: ·)

/-- The text of a string, which is given with its quotes. -/
def readString (s : Text) : Except PartFault (List CodePoint) := do
  let mark := s.headD '"'
  match Text.splitOn mark (s.drop 1) with
  | [] :: [] :: pieces => checkClosed true false 0 pieces
  | pieces => checkClosed false false 0 pieces
  let s ← if mark = '"' then do
      checkEscapes false ((Text.splitOn '\\' s).drop 1)
      unescape (← decodeAllCodes s)
    else pure (CodePoint.ofText s)
  let s := match s with
    | [_, p] => if p = .character mark then [] else s
    | _ :: p :: q :: rest =>
      if p = .character mark && p = q then (q :: rest).dropLast.dropLast else s
    | _ => s
  return inside s

/-- The name between the quotes of a key, whose code escapes are left alone, so that it consists of
characters. -/
def readName (s : Text) : Except PartFault Text :=
  (unescape (CodePoint.ofText (inside s))).map CodePoint.characters

/-- Whether a number is free of stray zeroes and underscores. -/
def isTidy (s : Text) : Bool :=
  let s := Text.trim s
  match s with
  | [] => false
  | c :: rest =>
    if c = '_' || s.getLast? = some '_' then false
    else if Text.holds s ['_', '.'] || Text.holds s ['.', '_'] then false
    else if rest.isEmpty then true
    else if c = '0' && !(rest.head?.any fun d => ['.', 'o', 'b', 'x'].contains d) then false
    else
      let digits := if c = '+' || c = '-' then rest else s
      let signedZero := (c = '+' || c = '-') && 1 < digits.length &&
        digits.head? = some '0' && (digits.drop 1).head? != some '.'
      !signedZero && !Text.holds digits ['_', '_']

/-- The time of day that a literal starts with, if it does. -/
def readClock (s : Text) : Except PartFault (Option Clock) :=
  match Clock.readNumbers? s with
  | none => .ok none
  | some (hour, minute, second, microsecond) =>
    if 24 ≤ hour then .error (.problem .hourBounds)
    else if 60 ≤ minute then .error (.problem .minuteBounds)
    else if 60 ≤ second then .error (.problem .secondBounds)
    else .ok (some ⟨hour, minute, second, microsecond⟩)

/-- The day, or the time on a day, that a literal stands for, if it does. -/
def readMoment (s : Text) : Except PartFault (Option Moment) :=
  (Moment.ofText s).mapError fun fault => .breach (.moment fault)

/-- The number of a literal without quotes; `tidy` tells whether its zeroes and underscores are in
order. -/
def readNumber (s : Text) (tidy : Bool) : Except PartFault Number := do
  if !tidy then throw (.problem .looseZeroes)
  let (negative, body) := Numeral.sign s
  let body := body.filter (· != '_')
  let word := Text.lower body
  if body.contains '.' || (!body.contains 'x' && (body.contains 'e' || body.contains 'E')) then
    if body.contains '.' && ((body.dropWhile (· != '.')).drop 1).isEmpty then
      throw (.problem .noFraction)
    match body with
    | [] => throw (.breach .shortText)
    | c :: _ => if !c.isDigit then throw (.problem .noLeadingDigit)
    match Numeral.floating? body with
    | none => throw (.problem (.notFloating (String.ofList body)))
    | some x => return .floating (if negative && !x.isZero then x.negate else x)
  else if word = ['i', 'n', 'f'] then return .floating (.infinite negative)
  else if word = ['n', 'a', 'n'] then return .floating .undefined
  else
    match Numeral.whole body with
    | .error .strange => throw (.problem (.notWhole (String.ofList body)))
    | .error (.long count) => throw (.problem (.longWhole count))
    | .ok n => return .whole (if negative then -n else n)

end Sightline.Setting.Literal
