/-!
Numbers of the 64-bit binary floating-point format, held by their exact value. `nearest` rounds a
quotient of naturals to the format; `le` compares exact values, so an integer and a float compare
without either being rounded.
-/
namespace Sightline

/-- A number of the format: plus or minus `significand * 2 ^ exponent`, an infinity, or the value
that is no number. -/
inductive Binary64 where
  | finite (negative : Bool) (significand : Nat) (exponent : Int)
  | infinite (negative : Bool)
  | undefined
  deriving DecidableEq, Repr, Inhabited

namespace Binary64

/-- The natural number nearest to `num / den`; of two, the even one. -/
def roundQuotient (num den : Nat) : Nat :=
  let q := num / den
  let twice := 2 * (num % den)
  if twice < den then q else if den < twice then q + 1 else q + q % 2

/-- `2 ^ n` for a power that may be negative, as a quotient. -/
def powerOfTwo (n : Int) : Nat × Nat := (Nat.pow 2 n.toNat, Nat.pow 2 (-n).toNat)

/-- `10 ^ n` for a power that may be negative, as a quotient. -/
def powerOfTen (n : Int) : Nat × Nat := (Nat.pow 10 n.toNat, Nat.pow 10 (-n).toNat)

/-- The number of the format nearest to plus or minus `num / den`: 53 significant bits, no exponent
below -1074, ties to the even significand, infinite from `2 ^ 1024` on. -/
def nearest (negative : Bool) (num den : Nat) : Binary64 :=
  if num = 0 then finite negative 0 0
  else
    let guess : Int := (num.log2 : Int) - den.log2 - 52
    let (up, down) := powerOfTwo (52 + guess)
    let fitted := if up * den ≤ num * down then guess else guess - 1
    let exponent := max fitted (-1074)
    let (up, down) := powerOfTwo exponent
    let rounded := roundQuotient (num * down) (den * up)
    let (significand, exponent) :=
      if rounded = Nat.pow 2 53 then (Nat.pow 2 52, exponent + 1) else (rounded, exponent)
    if 971 < exponent then infinite negative else finite negative significand exponent

/-- The number nearest to plus or minus `digits * 10 ^ scale`. Magnitudes far outside the format
are settled without computing the power. -/
def ofDecimal (negative : Bool) (digits : Nat) (scale : Int) : Binary64 :=
  if digits = 0 then finite negative 0 0
  else
    let magnitude := (digits.log2 : Int) / 4 + scale
    if 400 < magnitude then infinite negative
    else if (digits.log2 : Int) / 3 + 1 + scale < -400 then finite negative 0 0
    else
      let (up, down) := powerOfTen scale
      nearest negative (digits * up) down

/-- The number nearest to an integer. -/
def ofInt (n : Int) : Binary64 := nearest (n < 0) n.natAbs 1

/-- Zero, of either sign. -/
def isZero : Binary64 → Bool
  | finite _ 0 _ => true
  | _ => false

/-- The same magnitude with the sign changed. -/
def negate : Binary64 → Binary64
  | finite negative m e => finite (!negative) m e
  | infinite negative => infinite (!negative)
  | undefined => undefined

/-- Below nought, or a zero with a minus. -/
def isNegative : Binary64 → Bool
  | finite negative _ _ => negative
  | infinite negative => negative
  | undefined => false

/-- The number of the format nearest to the product. -/
def mul : Binary64 → Binary64 → Binary64
  | finite negative m e, finite negative' m' e' =>
    let (up, down) := powerOfTwo (e + e')
    nearest (negative != negative') (m * m' * up) down
  | undefined, _ => undefined
  | _, undefined => undefined
  | x, y => if x.isZero || y.isZero then undefined else infinite (x.isNegative != y.isNegative)

/-- The whole number that is left without the fraction, if the number is finite. -/
def truncate? : Binary64 → Option Int
  | finite negative m e =>
    let (up, down) := powerOfTwo e
    let size : Int := (m * up / down : Nat)
    some (if negative then -size else size)
  | _ => none

/-- The exact signed significand of a finite number. -/
def signed (negative : Bool) (m : Nat) : Int := if negative then -(m : Int) else m

/-- `a * 2 ^ i ≤ b * 2 ^ j`, on the exact values. -/
def scaledLe (a : Int) (i : Int) (b : Int) (j : Int) : Bool :=
  let low := min i j
  a * Nat.pow 2 (i - low).toNat ≤ b * Nat.pow 2 (j - low).toNat

/-- The order of the format; the value that is no number compares with nothing. -/
def le : Binary64 → Binary64 → Bool
  | undefined, _ => false
  | _, undefined => false
  | infinite negative, infinite negative' => negative || !negative'
  | infinite negative, finite _ _ _ => negative
  | finite _ _ _, infinite negative => !negative
  | finite s m e, finite s' m' e' => scaledLe (signed s m) e (signed s' m') e'

end Binary64

/-- A number of a settings document or of a detector's answer: whole or floating. -/
inductive Number where
  | whole (n : Int)
  | floating (x : Binary64)
  deriving DecidableEq, Repr, Inhabited

namespace Number

/-- The exact value as a number of the floating kind that is allowed any significand. -/
def exact : Number → Binary64
  | whole n => .finite (n < 0) n.natAbs 0
  | floating x => x

/-- The order of exact values. -/
def le (x y : Number) : Bool := Binary64.le x.exact y.exact

/-- The floating zero. -/
def zero : Number := floating (.finite false 0 0)

/-- Zero, of either kind and sign. -/
def isZero : Number → Bool
  | whole n => n = 0
  | floating x => x.isZero

/-- The word for the kind of a number in the wording of faults. -/
def kind : Number → String
  | whole _ => "int"
  | floating _ => "float"

end Number

end Sightline
