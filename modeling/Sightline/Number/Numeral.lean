import Sightline.Number.Binary64
import Sightline.Text.Case
import Sightline.Text.Category

/-!
Numerals: whole numbers and floating ones as they are written. Digits may be those of any script,
and blanks may stand at either end.
-/
namespace Sightline.Numeral

/-- Why a text is no whole number. -/
inductive Fault where
  /-- The text is no numeral. -/
  | strange
  /-- A decimal numeral has this many digits, more than are read. -/
  | long (digits : Nat)
  deriving DecidableEq, Repr

/-- How many digits a decimal numeral may have. -/
def maxDigits : Nat := 4300

/-- Whether a whole number has a decimal numeral. -/
def isWritable (n : Int) : Bool := n.natAbs < Nat.pow 10 maxDigits

/-- The wording of the fault of a whole number that has no decimal numeral. -/
def unwritable : String :=
  "Exceeds the limit (4300 digits) for integer string conversion; " ++
    "use sys.set_int_max_str_digits() to increase the limit"

/-- The blanks of ASCII that may stand around a numeral. -/
def isSpace (c : Char) : Bool := c = ' ' || (9 ≤ c.toNat && c.toNat ≤ 13)

/-- The text in the digits and blanks of ASCII. -/
def plain (s : Text) : Text :=
  s.map fun c =>
    if c.toNat < 128 then c
    else if Text.isBlank c then ' '
    else match Text.decimalValue? c with
      | some n => Char.ofNat (48 + n)
      | none => c

/-- The text without the blanks at either end, in the digits of ASCII. -/
def bare (s : Text) : Text :=
  (((plain s).dropWhile isSpace).reverse.dropWhile isSpace).reverse

/-- The value of a hexadecimal digit. -/
def hexValue? (c : Char) : Option Nat :=
  if '0' ≤ c ∧ c ≤ '9' then some (c.toNat - 48)
  else if 'a' ≤ c ∧ c ≤ 'f' then some (c.toNat - 87)
  else if 'A' ≤ c ∧ c ≤ 'F' then some (c.toNat - 55)
  else none

/-- The number that digits of a base stand for. -/
def digits? (base : Nat) (s : Text) : Option Nat :=
  if s.isEmpty then none
  else s.foldl (fun n? c => do
    let n ← n?
    let d ← hexValue? c
    if d < base then some (n * base + d) else none) (some 0)

/-- A sign in front of a numeral, and whether it is a minus. -/
def sign (s : Text) : Bool × Text :=
  match s with
  | '-' :: rest => (true, rest)
  | '+' :: rest => (false, rest)
  | _ => (false, s)

/-- The number that decimal digits stand for, of which the first may be a zero only if all are. -/
def decimal (s : Text) : Except Fault Nat :=
  let count := (s.takeWhile Char.isDigit).length
  if maxDigits < count then .error (.long count)
  else if s.head? = some '0' && s.any (· != '0') then .error .strange
  else match digits? 10 s with
    | some n => .ok n
    | none => .error .strange

/-- The number that digits stand for which may have a mark for base 16, 8 or 2 in front. -/
def marked (s : Text) : Except Fault Nat :=
  let inBase (base : Nat) (digits : Text) : Except Fault Nat :=
    match digits? base digits with
    | some n => .ok n
    | none => .error .strange
  match s with
  | '0' :: c :: rest =>
    if c = 'x' || c = 'X' then inBase 16 rest
    else if c = 'o' || c = 'O' then inBase 8 rest
    else if c = 'b' || c = 'B' then inBase 2 rest
    else decimal s
  | _ => decimal s

/-- The whole number of a text, in decimal or with a mark for another base. -/
def whole (s : Text) : Except Fault Int :=
  let (negative, digits) := sign (bare s)
  (marked digits).map fun n => if negative then -(n : Int) else n

/-- Digits without the underscores between them; an underscore anywhere else is refused. -/
def withoutUnderscores? : Text → Option Text
  | [] => some []
  | [c] => if c.isDigit then some [c] else none
  | c :: '_' :: d :: rest =>
    if c.isDigit && d.isDigit then (withoutUnderscores? (d :: rest)).map (c :: ·) else none
  | c :: rest => if c.isDigit then (withoutUnderscores? rest).map (c :: ·) else none

/-- The whole number of a text in decimal, in which zeros may come first and underscores may stand
between digits. -/
def wholeDecimal? (s : Text) : Option Int := do
  let (negative, digits) := sign (bare s)
  let digits ← withoutUnderscores? digits
  if maxDigits < digits.length then failure
  let n ← digits? 10 digits
  return if negative then -(n : Int) else n

/-- The floating number of a text: decimal with a point or an exponent, or one of the words for
what is no number. -/
def floating? (s : Text) : Option Binary64 := do
  let (negative, body) := sign (bare s)
  let word := Text.lower body
  if word = ['i', 'n', 'f'] || word = ['i', 'n', 'f', 'i', 'n', 'i', 't', 'y'] then
    return .infinite negative
  if word = ['n', 'a', 'n'] then return .undefined
  let mantissa := body.takeWhile fun c => c != 'e' && c != 'E'
  let whole ← withoutUnderscores? (mantissa.takeWhile (· != '.'))
  let fraction ← withoutUnderscores? ((mantissa.dropWhile (· != '.')).drop 1)
  let exponent ← match body.drop mantissa.length with
    | [] => some 0
    | _ :: rest => do
      let (down, digits) := sign rest
      let n ← digits? 10 (← withoutUnderscores? digits)
      some (if down then -(n : Int) else n)
  let digits ← digits? 10 (whole ++ fraction)
  return .ofDecimal negative digits (exponent - fraction.length)

end Sightline.Numeral
