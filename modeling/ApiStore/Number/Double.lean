/-
`Double.lean` -- binary64 numbers as exact data.

A document carries numbers that were written with a fraction or an exponent, and
the program has to compare them with integers of any size, print them back, and
tell `1` from `1.0`. None of that is arithmetic, so a number is kept as what it
denotes: a sign and a dyadic rational, or one of the three special values. The
representation is canonical (a finite number has one triple), hence equality of
data is equality of bit patterns, NaN apart, and every comparison below is a
comparison of rationals.

The only place where anything is rounded is `Double.ofRatio`: to the nearest
representable number, an exact tie going to the even significand.

Powers are written `Nat.pow`, here and wherever the program computes one: which instance
the sign `^` stands for depends on what else is imported.
-/
set_option autoImplicit false

namespace ApiStore

/-- A binary64 number: NaN, a signed infinity, or `± mant * 2 ^ expo`. The significand
is below `2 ^ 53`, and at least `2 ^ 52` unless the exponent is the least one. -/
inductive Double where
  | nan
  | infinite (neg : Bool)
  | finite (neg : Bool) (mant : Nat) (expo : Int)
  deriving DecidableEq, Repr, Inhabited

namespace Double

/-! ## 1. The format's constants -/

/-- Bits of a significand. -/
def precision : Nat := 53

/-- The exponent of the least positive number. -/
def leastExponent : Int := -1074

/-- The exponent of the largest finite number. -/
def greatestExponent : Int := 971

/-- The canonical zero of a sign. -/
def zero (neg : Bool) : Double := .finite neg 0 leastExponent

/-! ## 2. Rounding -/

/-- The integer nearest to `num / den`; a half goes to the even neighbour. -/
def roundQuotient (num den : Nat) : Nat :=
  let quo := num / den
  let rem := num % den
  if 2 * rem < den then quo
  else if den < 2 * rem then quo + 1
  else quo + quo % 2

/-- `num / den` in units of `2 ^ expo`, rounded to an integer. -/
def roundScaled (num den : Nat) (expo : Int) : Nat :=
  if 0 ≤ expo then roundQuotient num (den * Nat.pow 2 expo.toNat)
  else roundQuotient (num * Nat.pow 2 (-expo).toNat) den

/-- Whether `num / den < 2 ^ expo`. -/
def ratioBelowPower (num den : Nat) (expo : Int) : Bool :=
  if 0 ≤ expo then num < den * Nat.pow 2 expo.toNat
  else num * Nat.pow 2 (-expo).toNat < den

/-- The representable number nearest to `± num / den`. The bit lengths of `num` and `den`
give the exponent up to one, and one comparison settles it. A significand that rounds up
to `2 ^ 53` moves to the next exponent, and above the greatest exponent lies infinity. -/
def ofRatio (neg : Bool) (num den : Nat) : Double :=
  if num = 0 then zero neg
  else
    let guess : Int := (num.log2 : Int) - (den.log2 : Int) - 52
    let fitted := if ratioBelowPower num den (guess + 52) then guess - 1 else guess
    let expo := max fitted leastExponent
    let mant := roundScaled num den expo
    let (mant, expo) := if mant = Nat.pow 2 precision then (Nat.pow 2 (precision - 1),
      expo + 1) else (mant, expo)
    if greatestExponent < expo then .infinite neg else .finite neg mant expo

/-- The number nearest to `± digits * 10 ^ expo`. Magnitudes far outside the format's range
are decided without forming the power of ten, so a hostile exponent costs nothing. -/
def ofDecimal (neg : Bool) (digits : Nat) (expo : Int) : Double :=
  if digits = 0 then zero neg
  else
    let size : Int := (Nat.toDigits 10 digits).length + expo
    if 400 < size then .infinite neg
    else if size < -400 then zero neg
    else if 0 ≤ expo then ofRatio neg (digits * Nat.pow 10 expo.toNat) 1
    else ofRatio neg digits (Nat.pow 10 (-expo).toNat)

/-! ## 3. What a number denotes -/

/-- The rational that a finite number denotes. -/
def toRat? : Double → Option Rat
  | .finite neg mant expo =>
    let magnitude : Rat :=
      if 0 ≤ expo then ((mant * Nat.pow 2 expo.toNat : Nat) : Int)
      else mkRat mant (Nat.pow 2 (-expo).toNat)
    some (if neg then -magnitude else magnitude)
  | _ => none

/-- The integer that a number equals, if it equals one. -/
def toInt? (d : Double) : Option Int :=
  match d.toRat? with
  | some q => if q.den = 1 then some q.num else none
  | none => none

/-- Whether the number is neither NaN nor infinite. -/
def isFinite : Double → Bool
  | .finite _ _ _ => true
  | _ => false

/-- Whether the number is zero, of either sign. -/
def isZero : Double → Bool
  | .finite _ mant _ => mant == 0
  | _ => false

end Double

end ApiStore
