/-
`Half.lean` -- halves of pairs that stand alone.

In UTF-16 a character beyond the first 65536 is a pair of units, and each half of a pair
has a number of its own. JSON and YAML can name such a number by itself. It is the
number of no character, so a text keeps it as a character of the last plane that is for
private use, from which `code` finds it again: two halves stay two, and where numbers are
written out the half is written.

**A text that holds those characters itself is not kept apart.** The halves stand where
U+10D800 to U+10DFFF are, and these are characters in their own right, if private ones.
Where a text holds one of them it is taken for the half: it is written out as the half,
and two names are one if all that differs is that one holds the half and the other the
character.
-/
set_option autoImplicit false

namespace ApiStore.Text

/-- Whether a unit is the first half of a pair. -/
def isHighHalf (u : Nat) : Bool := 0xD800 ≤ u && u ≤ 0xDBFF

/-- Whether a unit is the second half of a pair. -/
def isLowHalf (u : Nat) : Bool := 0xDC00 ≤ u && u ≤ 0xDFFF

/-- The private character that stands for the unit zero; those of the halves lie above it. -/
def halfBase : Nat := 0x100000

/-- The character of a unit that is not part of a pair. -/
def charOfUnit (u : Nat) : Char :=
  if isHighHalf u || isLowHalf u then Char.ofNat (halfBase + u) else Char.ofNat u

/-- The character of a pair of halves. -/
def charOfPair (high low : Nat) : Char :=
  Char.ofNat (0x10000 + (high - 0xD800) * 1024 + (low - 0xDC00))

/-- Whether a character stands for a half. -/
def isHalf (c : Char) : Bool := isHighHalf (c.toNat - halfBase) || isLowHalf (c.toNat - halfBase)

/-- The number of a character; of a half, its own number. -/
def code (c : Char) : Nat := if isHalf c then c.toNat - halfBase else c.toNat

/-- A half that stands alone is found again. -/
theorem code_charOfUnit_of_half {u : Nat} (h : 0xD800 ≤ u ∧ u ≤ 0xDFFF) :
    code (charOfUnit u) = u := by
  have hv : (halfBase + u).isValidChar := by
    right
    simp only [halfBase]
    omega
  have hh : (isHighHalf u || isLowHalf u) = true := by
    simp only [isHighHalf, isLowHalf, Bool.or_eq_true, Bool.and_eq_true, decide_eq_true_eq]
    omega
  have hn : (charOfUnit u).toNat = halfBase + u := by
    rw [charOfUnit, if_pos hh, Char.ofNat, dif_pos hv]
    rfl
  have hd : halfBase + u - halfBase = u := by omega
  simp only [code, isHalf, hn, hd, hh, if_true]

end ApiStore.Text
