import ApiStore.Number.Arithmetic
import ApiStore.Text.Base64
import ApiStore.Yaml.Tag
/-
`Atom.lean` -- scalars of a type.

A scalar whose type is known is read as that type, whether it looks like it or not. What
a plain scalar looks like is narrower than what is read here: a numeral may have white
space around it, digits of any script, and a text of two numbers between colons need not
keep them below sixty. What cannot be read fails, each type in its own way.
-/
set_option autoImplicit false

namespace ApiStore.Yaml.Atom

/-! ## 1. Integers -/

/-- The integer of a numeral in a base. -/
def numeral (base : Nat) (s : List Char) : Except Fault Int :=
  match Numeral.integer? base s with
  | some i => .ok i
  | none => .error .notNumeral

/-- The integer of a numeral without its sign. A mark or a zero at the start tells the base, and
colons stand between sexagesimal digits. -/
def magnitude (s : List Char) : Except Fault Int :=
  match s with
  | [] => .error .emptyNumeral
  | '0' :: 'b' :: rest => numeral 2 rest
  | '0' :: 'x' :: rest => numeral 16 rest
  | '0' :: rest => numeral 8 ('0' :: rest)
  | s =>
    if s.contains ':' then
      ((Tag.colonParts s).mapM (numeral 10)).map fun parts => parts.foldl
      (fun n part => n * 60 + part) 0
    else numeral 10 s

/-- The integer of a scalar; underscores do not count. -/
def integer (s : List Char) : Except Fault Int :=
  let (neg, body) := Numeral.sign (s.filter (· ≠ '_'))
  (magnitude body).map fun i => if neg then -i else i

/-! ## 2. Numbers with a point -/

/-- The number of a text without colons. -/
def decimal (s : List Char) : Except Fault Double :=
  match Numeral.double? s with
  | some d => .ok d
  | none => .error .notNumeral

/-- A sum and sexagesimal digits added to it, the last digit first; `unit` is what the first counts
for. Every step is rounded. -/
def sixtySum (unit : Nat) (sum : Double) : List Double → Except Fault Double
  | [] => .ok sum
  | d :: rest =>
    let weight := Double.ofInt unit
    if weight.isFinite then sixtySum (unit * 60) (sum.add (d.mul weight)) rest
    else .error (.overflow "int too large to convert to float")

/-- The number of a text without its sign. -/
def positive (s : List Char) : Except Fault Double :=
  let word := String.ofList s
  if word = ".inf" then .ok (.infinite false)
  else if word = ".nan" then .ok .nan
  else if s.contains ':' then do
    let parts ← (Tag.colonParts s).mapM decimal
    sixtySum 1 (.zero false) parts.reverse
  else decimal s

/-- The number of a scalar; underscores and capitals do not count. -/
def double (s : List Char) : Except Fault Double :=
  let lower := (s.filter (· ≠ '_')).map Char.toLower
  if lower.isEmpty then .error .emptyNumeral
  else
    let (neg, body) := Numeral.sign lower
    (positive body).map fun d => if neg then (Double.ofInt (-1)).mul d else d

/-! ## 3. Other types -/

/-- The truth value of a word; capitals do not count. -/
def bool (s : List Char) : Except Fault Bool :=
  let word := String.ofList (s.map Char.toLower)
  if Tag.trueWords.contains word then .ok true
  else if Tag.falseWords.contains word then .ok false
  else .error (.missingKey (.str word))

/-- The date or date-time of a scalar. -/
def timestamp (s : List Char) : Except Fault Scalar :=
  match timestamp? (Tag.withoutLineFeed s) with
  | some (.inl d) => checkedDate d
  | some (.inr t) => checkedDateTime t
  | none => .error .notTimestamp

/-- The bytes of a scalar. -/
def bytes (s : List Char) : Except Fault (List UInt8) :=
  match Text.ofBase64? s with
  | some b => .ok b
  | none => .error .yaml

/-- The scalar of a type that a text denotes. A type of lists, maps or sets has no scalars. -/
def read (tag : Tag) (s : List Char) : Except Fault Scalar :=
  match tag with
  | .null => .ok .null
  | .bool => (bool s).map .bool
  | .int => (integer s).map .int
  | .float => (double s).map .double
  | .binary => (bytes s).map .bytes
  | .timestamp => timestamp s
  | .str => .ok (.str (String.ofList s))
  | _ => .error .yaml

end ApiStore.Yaml.Atom
