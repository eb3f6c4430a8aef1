import ApiStore.Text.Case
import ApiStore.Text.Digit
import ApiStore.Text.Half
import ApiStore.Text.Word
/-
`CharSet.lean` -- sets of characters.

A set is given by single characters, ranges and named classes, or by what it leaves
out. Its members are code points and not characters, because a range may end at a code
point that is no character.

**Letters of both cases.** A set may disregard the case of letters. Then it is the small
letter of a character that is looked for, among all variants of the members. Beyond the
basic plane this is done by halves: a single member stands for itself only, and a range
holds a small letter if it has that letter or its capital.
-/
set_option autoImplicit false

namespace ApiStore

/-! ## 1. Members -/

/-- Classes of characters that have a name. -/
inductive CharClass where
  | digit
  | word
  | blank
  deriving DecidableEq, Repr

/-- Whether a character belongs to a class, or to its ASCII part. -/
def CharClass.contains (ascii : Bool) : CharClass → Char → Bool
  | .digit, c => if ascii then c.isDigit else Text.isDecimalDigit c
  | .word, c => if ascii then c.isAlphanum || c == '_' else Text.isWord c
  | .blank, c => if ascii then c.toNat < 128 && Text.isSpace c else Text.isBlank c

/-- A part of a set of characters. -/
inductive CharRange where
  | one (code : Nat)
  | between (low high : Nat)
  | named (cls : CharClass) (ascii negated : Bool)
  deriving DecidableEq, Repr

/-! ## 2. Cases of letters -/

/-- Which letters count as the same in both cases. -/
inductive Folding where
  | nothing
  | ascii
  | all
  deriving DecidableEq, Repr

namespace Folding

/-- Whether a code point is a capital letter of ASCII. -/
def isAsciiCapital (code : Nat) : Bool := 65 ≤ code && code ≤ 90

/-- The small letter that stands for a character. -/
def small : Folding → Nat → Nat
  | .nothing, code => code
  | .ascii, code => if isAsciiCapital code then code + 32 else code
  | .all, code => Text.smallLetter code

/-- The characters that a small letter stands for. -/
def variants : Folding → Nat → List Nat
  | .nothing, code => [code]
  | .ascii, code => if isAsciiCapital (code - 32) then [code, code - 32] else [code]
  | .all, code => Text.variants code

/-- Whether case makes a difference between two code points. -/
def concerns (f : Folding) (low high : Nat) : Bool :=
  match f with
  | .nothing => false
  | .ascii => 0xFFFF < high || (low ≤ 90 && 65 ≤ high) || (low ≤ 122 && 97 ≤ high)
  | .all => 0xFFFF < high || Text.anyCased low high

end Folding

/-- Whether case makes a difference to a part of a set. -/
def CharRange.isCased (f : Folding) : CharRange → Bool
  | .one code => f.concerns code code
  | .between low high => f.concerns low high
  | .named _ _ _ => false

/-- Whether a part of a set holds the character of a small letter. -/
def CharRange.contains (f : Folding) (r : CharRange) (letter : Nat) : Bool :=
  match f, r with
  | _, .named cls ascii negated => cls.contains ascii (Char.ofNat letter) != negated
  | .nothing, .one code => letter == code
  | .nothing, .between low high => low ≤ letter && letter ≤ high
  | f, .one code => if code ≤ 0xFFFF then (f.variants letter).contains code else letter == code
  | f, .between low high =>
    let capital := Text.capitalLetter letter
    (f.variants letter).any (fun v => low ≤ v && v ≤ min high 0xFFFF) ||
      (0xFFFF < high && ((low ≤ letter && letter ≤ high) || (low ≤ capital && capital ≤ high)))

/-! ## 3. Sets -/

/-- A set of characters. -/
structure CharSet where
  ranges : List CharRange
  negated : Bool
  folding : Folding
  deriving DecidableEq, Repr

namespace CharSet

/-- Whether a character belongs to a set. -/
def contains (s : CharSet) (c : Char) : Bool :=
  s.ranges.any (·.contains s.folding (s.folding.small (Text.code c))) != s.negated

/-- The set of one character, or of all others. -/
def single (f : Folding) (code : Nat) (negated : Bool) : CharSet :=
  if f.concerns code code then { ranges := [.one (f.small code)], negated := negated, folding := f }
  else { ranges := [.one code], negated := negated, folding := .nothing }

/-- The set of some parts, or of all other characters. Case is not looked at where it makes no
difference. -/
def ofRanges (f : Folding) (ranges : List CharRange) (negated : Bool) : CharSet :=
  match ranges.eraseDups with
  | [.one code] => single f code negated
  | parts =>
    { ranges := parts, negated := negated,
      folding := if parts.any (·.isCased f) then f else .nothing }

/-- The set of all characters. -/
def any : CharSet := { ranges := [], negated := true, folding := .nothing }

end CharSet

end ApiStore
