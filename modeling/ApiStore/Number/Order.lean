import ApiStore.Number.Double
/-
`Order.lean` -- integers and doubles on one line.

Documents mix integers of any size with doubles, and both the equality of values
and the bounds of a field ask how two such numbers compare. They are compared as
the reals they denote, never by converting one kind into the other: the integer
`2 ^ 64 + 1` and the double nearest to it are different numbers. NaN is
unordered and unequal to everything, itself included.
-/
set_option autoImplicit false

namespace ApiStore

/-- A number of a document. -/
inductive Number where
  | int (i : Int)
  | double (d : Double)
  deriving DecidableEq, Repr

namespace Number

/-- A point of the extended line. -/
inductive Point where
  | below
  | at (q : Rat)
  | above
  deriving DecidableEq, Repr

/-- Where a number lies; NaN lies nowhere. -/
def point? : Number → Option Point
  | .int i => some (.at i)
  | .double .nan => none
  | .double (.infinite neg) => some (if neg then .below else .above)
  | .double d => d.toRat?.map .at

/-- Strict order of the extended line. -/
def Point.lt : Point → Point → Bool
  | .below, .below => false
  | .below, _ => true
  | .at _, .below => false
  | .at p, .at q => decide (p < q)
  | .at _, .above => true
  | .above, _ => false

/-- Whether `a` is less than `b`. -/
def lt (a b : Number) : Bool :=
  match a.point?, b.point? with
  | some p, some q => p.lt q
  | _, _ => false

/-- Whether `a` and `b` denote the same number. -/
def same (a b : Number) : Bool :=
  match a.point?, b.point? with
  | some p, some q => p == q
  | _, _ => false

end Number

end ApiStore
