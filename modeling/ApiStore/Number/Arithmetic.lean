import ApiStore.Number.Double
/-
`Arithmetic.lean` -- sums and products of doubles.

A sum or a product of finite numbers is the exact rational one, rounded once. What
is left is the sign of a zero, and the cases with infinities.
-/
set_option autoImplicit false

namespace ApiStore.Double

/-- Whether a number carries a minus sign. -/
def isNegative : Double → Bool
  | .nan => false
  | .infinite neg | .finite neg _ _ => neg

/-- The double nearest to an integer. -/
def ofInt (i : Int) : Double := ofRatio (decide (i < 0)) i.natAbs 1

/-- The sum of two numbers. An exact zero is positive unless both numbers are negative. -/
def add (a b : Double) : Double :=
  match a.toRat?, b.toRat? with
  | some p, some q =>
    let sum := p + q
    if sum = 0 then zero (a.isNegative && b.isNegative)
    else ofRatio (decide (sum < 0)) sum.num.natAbs sum.den
  | some _, none => b
  | none, some _ => a
  | none, none => if a = b then a else .nan

/-- The product of two numbers. -/
def mul (a b : Double) : Double :=
  let neg := a.isNegative != b.isNegative
  match a.toRat?, b.toRat? with
  | some p, some q => ofRatio neg (p * q).num.natAbs (p * q).den
  | _, _ => if a = .nan || b = .nan || a.isZero || b.isZero then .nan else .infinite neg

end ApiStore.Double
