/-
`Ranges.lean` -- sets of characters as lists of ranges.

A character property is data of the Unicode standard. It is kept the way the standard
prints it, as ranges of code points with both ends included, so that membership is one
linear search that a proof can unfold.
-/
set_option autoImplicit false

namespace ApiStore.Text

/-- Ranges of code points, both ends included. -/
abbrev Ranges := List (Nat × Nat)

/-- Whether a code point lies in one of the ranges. -/
def Ranges.contains (ranges : Ranges) (code : Nat) : Bool :=
  ranges.any fun (low, high) => low ≤ code && code ≤ high

end ApiStore.Text
