import ApiStore.Number.Double
import ApiStore.Text.Digit
/-
`Numeral.lean` -- the numbers that texts denote.

A numeral may have white space around it and a sign in front, and its digits may be of
any script. An integer may have single underscores between its digits, and the mark of
its base in front if that is two, eight or sixteen. A decimal integer of more than 4300
digits is refused: it could not be read in a reasonable time.
-/
set_option autoImplicit false

namespace ApiStore.Numeral

/-! ## 1. Digits -/

/-- A numeral without the white space around it, and with the digits of all scripts in ASCII. -/
def plain (s : List Char) : List Char :=
  (Text.trim s).map fun c => ((Text.decimalValue? c).map fun d => Char.ofNat (48 + d)).getD c

/-- The value of a digit, or of a letter that stands for ten or more. -/
def digitValue? (c : Char) : Option Nat :=
  if '0' ≤ c ∧ c ≤ '9' then some (c.toNat - 48)
  else if 'a' ≤ c ∧ c ≤ 'f' then some (c.toNat - 87)
  else if 'A' ≤ c ∧ c ≤ 'F' then some (c.toNat - 55)
  else none

/-- The value of a digit in a base. -/
def digitIn? (base : Nat) (c : Char) : Option Nat := (digitValue? c).filter (· < base)

/-- The number that digits denote in a base. -/
def ofDigits (base : Nat) (digits : List Nat) : Nat := digits.foldl (fun n d => n * base + d) 0

/-- The digits of a numeral, which has at least one; an underscore stands between two of them. -/
def digits? (base : Nat) : List Char → Option (List Nat)
  | [] => none
  | [c] => (digitIn? base c).map ([·])
  | c :: '_' :: rest => do return (← digitIn? base c) :: (← digits? base rest)
  | c :: rest => do return (← digitIn? base c) :: (← digits? base rest)

/-- A sign, and what follows it; without a sign the number is not negative. -/
def sign (s : List Char) : Bool × List Char :=
  match s with
  | '-' :: rest => (true, rest)
  | '+' :: rest => (false, rest)
  | rest => (false, rest)

/-! ## 2. Integers -/

/-- The letter that marks a base behind a zero. -/
def baseLetter? (base : Nat) : Option Char :=
  if base = 2 then some 'b' else if base = 8 then some 'o' else if base = 16 then some 'x' else none

/-- A numeral without the mark of its base, and without one underscore behind the mark. -/
def dropMark (base : Nat) (s : List Char) : List Char :=
  match s with
  | '0' :: c :: rest =>
    if baseLetter? base = some c.toLower then
      match rest with
      | '_' :: more => more
      | rest => rest
    else s
  | s => s

/-- The most digits that a decimal integer may have. -/
def mostDigits : Nat := 4300

/-- Whether so many digits can be read in a base. -/
def fits (base : Nat) (digits : List Nat) : Bool := base ≠ 10 || digits.length ≤ mostDigits

/-- The integer that a text denotes in a base. -/
def integer? (base : Nat) (s : List Char) : Option Int := do
  let (neg, body) := sign (plain s)
  let digits ← digits? base (dropMark base body)
  if fits base digits then
    let n : Int := ofDigits base digits
    return if neg then -n else n
  else none

/-! ## 3. Numbers with a point -/

/-- The number that decimal digits denote. -/
def decimalNumber (s : List Char) : Nat := ofDigits 10 (s.filterMap (digitIn? 10))

/-- The exponent at the end of a number. -/
def exponent? (s : List Char) : Option Int :=
  match s with
  | [] => some 0
  | e :: rest =>
    let (neg, digits) := sign rest
    if e.toLower = 'e' ∧ digits ≠ [] ∧ digits.all Char.isDigit then
      let n : Int := decimalNumber digits
      some (if neg then -n else n)
    else none

/-- The number that a text denotes: digits with a point and an exponent, or infinity, or no
number. -/
def double? (s : List Char) : Option Double :=
  let (neg, body) := sign (plain s)
  let word := String.ofList (body.map Char.toLower)
  if word = "inf" ∨ word = "infinity" then some (.infinite neg)
  else if word = "nan" then some .nan
  else
    let whole := body.takeWhile Char.isDigit
    let afterWhole := body.dropWhile Char.isDigit
    let (decimals, rest) := match afterWhole with
      | '.' :: more => (more.takeWhile Char.isDigit, more.dropWhile Char.isDigit)
      | rest => ([], rest)
    if whole ++ decimals = [] then none
    else (exponent? rest).map fun e => .ofDecimal neg (decimalNumber (whole ++ decimals))
      (e - decimals.length)

end ApiStore.Numeral
