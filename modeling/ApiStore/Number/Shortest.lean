import ApiStore.Number.Double
/-
`Shortest.lean` -- the decimal text of a double.

The text has as few significant digits as still read back as the same number, and
of the decimals with that many digits it is the one nearest to the number. Two
parts do the work. `Decimal.shortest` finds the digits: the numbers that round to
`m * 2 ^ e` form an interval of rationals, whose ends belong to it exactly if `m` is
even, and on the grid of `n`-digit decimals only the two neighbours of the number
can be nearest to it, so trying `n = 1, 2, ... 17` in turn settles the matter in
exact integer arithmetic. `NumberStyle` holds what is a matter of the format that
is being written: the names of the special values, and whether a lone digit before
an exponent takes a point.
-/
set_option autoImplicit false

namespace ApiStore

/-- The decimal `digits * 10 ^ expo`. -/
structure Decimal where
  digits : Nat
  expo : Int
  deriving DecidableEq, Repr

namespace Decimal

/-! ## 1. The digits -/

/-- A positive number and the ends of its rounding interval, over a common denominator. -/
structure Interval where
  value : Nat
  low : Nat
  high : Nat
  den : Nat
  closed : Bool

/-- The interval of rationals that round to `mant * 2 ^ expo`, in quarters of a unit. The
lower neighbour of a power of two is only half as far away, unless it is subnormal. -/
def Interval.of (mant : Nat) (expo : Int) : Interval :=
  let below := if mant = Nat.pow 2 52 ∧ Double.leastExponent < expo then 1 else 2
  let quarter := expo - 2
  let num := if 0 ≤ quarter then Nat.pow 2 quarter.toNat else 1
  let den := if 0 ≤ quarter then 1 else Nat.pow 2 (-quarter).toNat
  { value := 4 * mant * num, low := (4 * mant - below) * num, high := (4 * mant + 2) * num,
    den := den, closed := mant % 2 = 0 }

/-- The two sides of `num / den ≤ digits * 10 ^ expo`, cleared of fractions. -/
def cross (num den : Nat) (d : Decimal) : Nat × Nat :=
  if 0 ≤ d.expo then (num, d.digits * Nat.pow 10 d.expo.toNat * den)
  else (num * Nat.pow 10 (-d.expo).toNat, d.digits * den)

/-- Whether a decimal reads back as the number whose interval is given. -/
def Interval.contains (i : Interval) (d : Decimal) : Bool :=
  let (low, mid) := cross i.low i.den d
  let (high, _) := cross i.high i.den d
  if i.closed then low ≤ mid && mid ≤ high else low < mid && mid < high

/-- The distance of a decimal from the number, in a unit that depends on the grid alone. -/
def Interval.distance (i : Interval) (d : Decimal) : Nat :=
  let (value, mid) := cross i.value i.den d
  if value ≤ mid then mid - value else value - mid

/-- The largest multiple of `10 ^ expo` that is not above the number. -/
def Interval.floorAt (i : Interval) (expo : Int) : Decimal :=
  let quo := if 0 ≤ expo then i.value / (i.den * Nat.pow 10 expo.toNat) else i.value * Nat.pow 10
    (-expo).toNat / i.den
  { digits := quo, expo := expo }

/-- How many digits the number has before its decimal point; negative or zero counts the
zeros that follow the point. The bit lengths give it up to two. -/
def Interval.magnitude (i : Interval) : Int :=
  let guess : Int := ((i.value.log2 : Int) - (i.den.log2 : Int) - 1) * 30103 / 100000
  let below (p : Int) : Bool :=
    let (value, power) := cross i.value i.den { digits := 1, expo := p }
    value < power
  ([guess, guess + 1, guess + 2].find? below).getD (guess + 3)

/-- The neighbour of the number on the grid of `n`-digit decimals that reads back as it: the
nearer one if both do, the one with an even last digit if they are equally near. -/
def Interval.onGrid (i : Interval) (expo : Int) : Option Decimal :=
  let lower := i.floorAt expo
  let upper : Decimal := { lower with digits := lower.digits + 1 }
  match i.contains lower, i.contains upper with
  | true, false => some lower
  | false, true => some upper
  | false, false => none
  | true, true =>
    let (down, up) := (i.distance lower, i.distance upper)
    if down < up then some lower
    else if up < down then some upper
    else some (if lower.digits % 2 = 0 then lower else upper)

/-- Moves trailing zeros of the digits into the exponent; `fuel` bounds their number. -/
def trimZeros : Nat → Decimal → Decimal
  | 0, d => d
  | fuel + 1, d =>
    if d.digits ≠ 0 ∧ d.digits % 10 = 0 then
      trimZeros fuel { digits := d.digits / 10, expo := d.expo + 1 }
    else d

/-- The shortest decimal that reads back as the positive number `mant * 2 ^ expo`, and of
those the nearest. Seventeen digits always read back, so the search never fails. -/
def shortest (mant : Nat) (expo : Int) : Decimal :=
  let i := Interval.of mant expo
  let size := i.magnitude
  let found := (List.range 17).findSome? fun (n : Nat) => i.onGrid (size - (n : Int) - 1)
  trimZeros 20 (found.getD (i.floorAt (size - 17)))

end Decimal

/-! ## 2. The format -/

/-- The choices that a format makes when it writes a double. -/
structure NumberStyle where
  nan : String
  infinite : String
  negInfinite : String
  /-- Whether a single digit before an exponent is followed by `.0`. -/
  pointBeforeExponent : Bool

/-- Digits of a natural number. -/
def natText (n : Nat) : String := String.ofList (Nat.toDigits 10 n)

/-- Digits of an integer, after a minus sign if it is negative. -/
def intText : Int → String
  | .ofNat n => natText n
  | .negSucc n => "-" ++ natText (n + 1)

/-- An exponent: a sign, and at least two digits. -/
def exponentText (e : Int) : String :=
  let digits := natText e.natAbs
  (if e < 0 then "-" else "+") ++ (if digits.length < 2 then "0" ++ digits else digits)

/-- The text of a positive decimal. The point is written in place for magnitudes from
`10 ^ -4` up to, not including, `10 ^ 16`; outside, one digit, the others after a point,
and an exponent. A whole number in place keeps one zero after its point. -/
def Decimal.text (style : NumberStyle) (d : Decimal) : String :=
  let digits := natText d.digits
  let lead : Int := digits.length + d.expo - 1
  if -4 ≤ lead ∧ lead < 16 then
    if 0 ≤ d.expo then digits ++ String.ofList (List.replicate d.expo.toNat '0') ++ ".0"
    else if 0 ≤ lead then
      let whole := lead.toNat + 1
      String.ofList (digits.toList.take whole) ++ "." ++ String.ofList (digits.toList.drop whole)
    else "0." ++ String.ofList (List.replicate (-lead - 1).toNat '0') ++ digits
  else
    let rest := String.ofList (digits.toList.drop 1)
    let fraction :=
      if rest.isEmpty then (if style.pointBeforeExponent then ".0" else "") else "." ++ rest
    String.ofList (digits.toList.take 1) ++ fraction ++ "e" ++ exponentText lead

/-- The text of a double in a style. -/
def Double.text (style : NumberStyle) : Double → String
  | .nan => style.nan
  | .infinite neg => if neg then style.negInfinite else style.infinite
  | .finite neg mant expo =>
    (if neg then "-" else "") ++
      (if mant = 0 then "0.0" else (Decimal.shortest mant expo).text style)

end ApiStore
