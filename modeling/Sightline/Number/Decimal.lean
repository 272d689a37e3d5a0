import Sightline.Number.Binary64

/-!
Decimal texts of floating-point numbers: with two places, and with the fewest digits that read
back as the same number.
-/
namespace Sightline.Binary64

/-- The digits of a natural number, at least `width` of them. -/
def padded (width n : Nat) : String :=
  let digits := toString n
  String.ofList (List.replicate (width - digits.length) '0') ++ digits

/-- The sign in front of a magnitude. -/
def signText (negative : Bool) : String := if negative then "-" else ""

/-- Two decimal places, the exact value rounded to the nearest and a tie to the even hundredth. -/
def toPlaces2 : Binary64 → String
  | undefined => "nan"
  | infinite negative => signText negative ++ "inf"
  | finite negative m e =>
    let (up, down) := powerOfTwo e
    let hundredths := roundQuotient (m * up * 100) down
    signText negative ++ toString (hundredths / 100) ++ "." ++ padded 2 (hundredths % 100)

/-- `c * 10 ^ k ≤ b * 2 ^ q`, on the exact values. -/
def decimalLe (c : Nat) (k : Int) (b : Nat) (q : Int) : Bool :=
  let (tenUp, tenDown) := powerOfTen k
  let (twoUp, twoDown) := powerOfTwo q
  c * tenUp * twoDown ≤ b * twoUp * tenDown

/-- `c * 10 ^ k < b * 2 ^ q`, on the exact values. -/
def decimalLt (c : Nat) (k : Int) (b : Nat) (q : Int) : Bool :=
  let (tenUp, tenDown) := powerOfTen k
  let (twoUp, twoDown) := powerOfTwo q
  c * tenUp * twoDown < b * twoUp * tenDown

/-- Whether `c * 10 ^ k` lies among the reals that round to `m * 2 ^ e`. The bounds are kept in
units of a quarter of the last place; they belong to the set when the significand is even. -/
def readsBack (m : Nat) (e : Int) (c : Nat) (k : Int) : Bool :=
  let low := if m = Nat.pow 2 52 && -1074 < e then 4 * m - 1 else 4 * m - 2
  let high := 4 * m + 2
  if m % 2 = 0 then !decimalLt c k low (e - 2) && decimalLe c k high (e - 2)
  else !decimalLe c k low (e - 2) && decimalLt c k high (e - 2)

/-- The exponent of ten of the leading digit of `m * 2 ^ e`, found from an estimate that is at most
two too low. -/
def leadingExponent (m : Nat) (e : Int) : Int :=
  let estimate := ((m.log2 : Int) + e) * 30103 / 100000 - 1
  if decimalLe 1 (estimate + 2) m e then estimate + 2
  else if decimalLe 1 (estimate + 1) m e then estimate + 1
  else estimate

/-- The closest of the two neighbours of `m * 2 ^ e` on the grid of step `10 ^ k` that reads back;
of two at the same distance the even one. -/
def onGrid? (m : Nat) (e : Int) (k : Int) : Option Nat :=
  let (twoUp, twoDown) := powerOfTwo e
  let (tenUp, tenDown) := powerOfTen k
  let num := m * twoUp * tenDown
  let den := twoDown * tenUp
  let below := num / den
  let closer := roundQuotient num den
  let other := if closer = below then below + 1 else below
  if readsBack m e closer k then some closer
  else if readsBack m e other k then some other
  else none

/-- The first grid, from `count` digits on, that has a number which reads back. -/
def shortestFrom (m : Nat) (e : Int) (leading : Int) : (fuel count : Nat) → Nat × Int
  | 0, count => (m, e + count)
  | fuel + 1, count =>
    let k := leading - count + 1
    match onGrid? m e k with
    | some c => (c, k)
    | none => shortestFrom m e leading fuel (count + 1)

/-- Drops the trailing zeros of `c * 10 ^ k`. -/
def dropZeros : (fuel c : Nat) → (k : Int) → Nat × Int
  | 0, c, k => (c, k)
  | fuel + 1, c, k => if c % 10 = 0 && c != 0 then dropZeros fuel (c / 10) (k + 1) else (c, k)

/-- The fewest digits that read back, as a natural number without trailing zeros and an exponent of
ten. Seventeen digits always suffice. -/
def shortest (m : Nat) (e : Int) : Nat × Int :=
  let (c, k) := shortestFrom m e (leadingExponent m e) 17 1
  dropZeros 20 c k

/-- The text of a positive number with the digits `c` and the exponent `k`: positional from
`0.0001` up to 16 digits before the point, always with a point, and with an exponent of at least
two digits outside that range. -/
def layout (c : Nat) (k : Int) : String :=
  let digits := toString c
  let point : Int := digits.length + k
  if -4 < point && point ≤ 16 then
    if point ≤ 0 then
      "0." ++ String.ofList (List.replicate (-point).toNat '0') ++ digits
    else if (digits.length : Int) ≤ point then
      digits ++ String.ofList (List.replicate k.toNat '0') ++ ".0"
    else
      String.ofList (digits.toList.take point.toNat) ++ "." ++
        String.ofList (digits.toList.drop point.toNat)
  else
    let fraction := digits.toList.drop 1
    let exponent := point - 1
    String.ofList (digits.toList.take 1) ++
      (if fraction.isEmpty then "" else "." ++ String.ofList fraction) ++
      "e" ++ (if exponent < 0 then "-" else "+") ++ padded 2 exponent.natAbs

/-- The shortest text that reads back as the same number. -/
def toShortest : Binary64 → String
  | undefined => "nan"
  | infinite negative => signText negative ++ "inf"
  | finite negative 0 _ => signText negative ++ "0.0"
  | finite negative m e =>
    let (c, k) := shortest m e
    signText negative ++ layout c k

end Sightline.Binary64
