import Sightline.Number.Decimal
import Sightline.Number.Numeral

/-!
Days of the calendar, times of day, and both together, as a settings document writes them.
-/
namespace Sightline

/-- A day of the calendar. -/
structure Day where
  year : Nat
  month : Nat
  day : Nat
  deriving DecidableEq, Repr

/-- A time of day. -/
structure Clock where
  hour : Nat
  minute : Nat
  second : Nat
  microsecond : Nat
  deriving DecidableEq, Repr

/-- A day, a time of day, or a time on a day, which may tell how many minutes it is ahead of the
common time. -/
inductive Moment where
  | day (d : Day)
  | clock (c : Clock)
  | instant (d : Day) (c : Clock) (offset : Option Int)
  deriving DecidableEq, Repr

namespace Day

/-- The number of days of a month. -/
def monthLength (year month : Nat) : Nat :=
  if month = 2 then
    if year % 4 = 0 && (year % 100 != 0 || year % 400 = 0) then 29 else 28
  else if [4, 6, 9, 11].contains month then 30 else 31

/-- The day with some numbers, if there is one; years have at most four digits. -/
def ofNumbers? (year month day : Int) : Option Day :=
  if 1 ≤ year && year ≤ 9999 && 1 ≤ month && month ≤ 12 && 1 ≤ day &&
      day ≤ monthLength year.toNat month.toNat then
    some ⟨year.toNat, month.toNat, day.toNat⟩
  else none

/-- Year, month and day between hyphens. -/
def text (d : Day) : String :=
  Binary64.padded 4 d.year ++ "-" ++ Binary64.padded 2 d.month ++ "-" ++ Binary64.padded 2 d.day

/-- The numbers of a day inside a message. -/
def numbers (d : Day) : List Nat := [d.year, d.month, d.day]

end Day

namespace Clock

/-- The time of day with some numbers, if there is one. -/
def ofNumbers? (hour minute second microsecond : Int) : Option Clock :=
  if 0 ≤ hour && hour < 24 && 0 ≤ minute && minute < 60 && 0 ≤ second && second < 60 &&
      0 ≤ microsecond && microsecond < 1000000 then
    some ⟨hour.toNat, minute.toNat, second.toNat, microsecond.toNat⟩
  else none

/-- Hour, minute and second between colons, and the fraction of a second if there is one. -/
def text (c : Clock) : String :=
  Binary64.padded 2 c.hour ++ ":" ++ Binary64.padded 2 c.minute ++ ":" ++
    Binary64.padded 2 c.second ++
    if c.microsecond = 0 then "" else "." ++ Binary64.padded 6 c.microsecond

/-- The numbers of a time of day inside a message; the finer ones may be left out. -/
def numbers (c : Clock) : List Nat :=
  [c.hour, c.minute] ++
    if c.microsecond != 0 then [c.second, c.microsecond]
    else if c.second != 0 then [c.second] else []

/-- The hour, minute, second and microsecond that a text starts with, in or out of their bounds.
The fraction is read as a count of microseconds, whatever the number of its digits. -/
def readNumbers? (s : Text) : Option (Nat × Nat × Nat × Nat) :=
  match s with
  | a :: b :: ':' :: c :: d :: ':' :: e :: f :: rest => do
    let hour ← Numeral.digits? 10 [a, b]
    let minute ← Numeral.digits? 10 [c, d]
    let second ← Numeral.digits? 10 [e, f]
    let fraction := match rest with
      | '.' :: rest => (rest.take 6).takeWhile Char.isDigit
      | _ => []
    let microsecond := if fraction.length < 3 then none else Numeral.digits? 10 fraction
    return (hour, minute, second, microsecond.getD 0)
  | _ => none

end Clock

namespace Moment

/-- The whole number between two columns of a text. -/
def part? (s : Text) (start stop : Nat) : Option Int :=
  Numeral.wholeDecimal? ((s.take stop).drop start)

/-- The minutes that a time zone is ahead, from its sign, its hours and its minutes. -/
def readOffset? (zone : Text) : Option Int := do
  if zone = ['Z'] then return 0
  let hours ← part? zone 1 3
  let minutes ← part? zone 4 6
  let size := hours * 60 + minutes
  return if zone.head? = some '-' then -size else size

/-- What ends the reading of a text before it is known whether it is a moment. -/
inductive Fault where
  /-- The digits of a fraction make a number beyond the floating ones. -/
  | hugeFraction
  deriving DecidableEq, Repr

/-- The microseconds that the digits of a fraction of a second stand for, if they can be read. More
than six digits are scaled down as a floating number, which may round up to the next microsecond. -/
def readFraction (digits : Text) : Except Fault (Option Int) :=
  match Numeral.wholeDecimal? digits with
  | none => .ok none
  | some n =>
    if digits.length ≤ 6 then .ok (some (n * Nat.pow 10 (6 - digits.length)))
    else
      let unit := Binary64.ofDecimal false 1 (6 - digits.length)
      match ((Binary64.ofInt n).mul unit).truncate? with
      | none => .error .hugeFraction
      | some microseconds => .ok (some microseconds)

/-- Cuts what stands behind the point of a time into the fraction and the time zone. -/
def cutZone (s : Text) : Text × Option Text :=
  if s.getLast? = some 'Z' || s.getLast? = some 'z' then (s.dropLast, some ['Z'])
  else if s.contains '+' then (s.takeWhile (· != '+'), some (s.dropWhile (· != '+')))
  else if s.contains '-' then (s.takeWhile (· != '-'), some (s.dropWhile (· != '-')))
  else (s, none)

/-- The microseconds and the time zone behind the seconds of a time. Where one of the two cannot be
read, neither counts. -/
def readTail (s : Text) : Except Fault (Int × Option Int) :=
  match s with
  | [] => .ok (0, none)
  | '.' :: rest =>
    match cutZone rest with
    | (digits, none) => (readFraction digits).map fun n => (n.getD 0, none)
    | (digits, some zone) =>
      match readOffset? zone with
      | none => .ok (0, none)
      | some offset => (readFraction digits).map fun
        | some n => (n, some offset)
        | none => (0, none)
  | zone => .ok (0, readOffset? zone)

/-- The day, or the time on a day, that the first columns of a text stand for. -/
def ofColumns? (s : Text) (microsecond : Int) (offset : Option Int) : Option Moment := do
  if !(s.drop 1).contains '-' then failure
  let day ← Day.ofNumbers? (← part? s 0 4) (← part? s 5 7) (← part? s 8 10)
  if s.length = 10 then return .day day
  let clock ← Clock.ofNumbers? (← part? s 11 13) (← part? s 14 16) (← part? s 17 19) microsecond
  return .instant day clock offset

/-- The day, or the time on a day, that a text stands for, if it does. What stands where the
fraction of a second would be is read first, whatever the rest is. -/
def ofText (s : Text) : Except Fault (Option Moment) :=
  (readTail (s.drop 19)).map fun (microsecond, offset) => ofColumns? s microsecond offset

/-- The word for the kind of a moment in the wording of faults. -/
def kind : Moment → String
  | day _ => "datetime.date"
  | clock _ => "datetime.time"
  | instant _ _ _ => "datetime.datetime"

/-- The sign, hours and minutes of a time zone. -/
def offsetText (offset : Int) : String :=
  (if offset < 0 then "-" else "+") ++ Binary64.padded 2 (offset.natAbs / 60) ++ ":" ++
    Binary64.padded 2 (offset.natAbs % 60)

/-- A moment as plain text. -/
def text : Moment → String
  | day d => d.text
  | clock c => c.text
  | instant d c offset => d.text ++ " " ++ c.text ++ (offset.map offsetText).getD ""

/-- The numbers of a moment inside a message. -/
def numbers : Moment → List Nat
  | day d => d.numbers
  | clock c => c.numbers
  | instant d c _ => d.numbers ++ c.numbers

/-- The written form of a moment inside a message. -/
def written (m : Moment) : String :=
  m.kind ++ "(" ++ ", ".intercalate (m.numbers.map toString) ++ ")"

end Moment

end Sightline
