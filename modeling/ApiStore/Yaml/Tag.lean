import ApiStore.Yaml.Timestamp
/-
`Tag.lean` -- the types of the nodes of a YAML text.

A tag names the type of a node. Where a text gives none, the shape of the node decides: a
list, a map, or a scalar, and a plain scalar has the type that it looks like. An integer
has one of five notations, a number with a point one of three, and for truth, for null
and for a timestamp there are fixed words and forms. What looks like nothing else is a
text.

**One line end.** A line feed at the end of a scalar does not change what it looks like.
It cannot stand at the end of a plain scalar, but a scalar in quotes may be asked for its
looks as well. The empty scalar is null, and a line feed alone is a text.
-/
set_option autoImplicit false

namespace ApiStore.Yaml

/-- The type of a node. -/
inductive Tag where
  | null
  | bool
  | int
  | float
  | binary
  | timestamp
  | str
  | seq
  | map
  | set
  | omap
  | pairs
  /-- The key that brings in the entries of other maps. -/
  | merge
  /-- The key whose value stands for a whole map. -/
  | value
  | unknown
  deriving DecidableEq, Repr, Inhabited

namespace Tag

/-! ## 1. Names -/

/-- The common beginning of the names of the standard types. -/
def standard : String := "tag:yaml.org,2002:"

/-- The standard types, by the rest of their names. -/
def names : List (String × Tag) :=
  [("null", .null), ("bool", .bool), ("int", .int), ("float", .float), ("binary", .binary),
   ("timestamp", .timestamp), ("str", .str), ("seq", .seq), ("map", .map), ("set", .set),
     ("omap", .omap),
   ("pairs", .pairs), ("merge", .merge), ("value", .value)]

/-- The type of a full name. -/
def ofName (name : String) : Tag :=
  ((names.find? fun (short, _) => standard ++ short == name).map (·.2)).getD .unknown

/-! ## 2. Looks of scalars -/

/-- The words for true. -/
def trueWords : List String := ["yes", "Yes", "YES", "true", "True", "TRUE", "on", "On", "ON"]

/-- The words for false. -/
def falseWords : List String := ["no", "No", "NO", "false", "False", "FALSE", "off", "Off", "OFF"]

/-- The words for null, the empty one apart. -/
def nullWords : List String := ["~", "null", "Null", "NULL"]

/-- A text without the line feed at its end. -/
def withoutLineFeed (s : List Char) : List Char := if s.getLast? = some '\n' then s.dropLast else s

/-- A text without the sign at its start. -/
def unsigned (s : List Char) : List Char := (Numeral.sign s).2

/-- Whether a character is a digit or an underscore. -/
def isDigitOrGap (c : Char) : Bool := c.isDigit || c == '_'

/-- Whether a text is a digit of a kind, and then digits and underscores. -/
def isDigits (isFirst : Char → Bool) (s : List Char) : Bool :=
  match s with
  | c :: rest => isFirst c && rest.all isDigitOrGap
  | [] => false

/-- The parts of a text between colons. -/
def colonParts : List Char → List (List Char)
  | [] => [[]]
  | ':' :: rest => [] :: colonParts rest
  | c :: rest =>
    match colonParts rest with
    | first :: others => (c :: first) :: others
    | [] => [[c]]

/-- Whether a text is a sexagesimal digit: one or two decimal digits, below sixty. -/
def isSixty (s : List Char) : Bool :=
  match s with
  | [a] => a.isDigit
  | [a, b] => '0' ≤ a && a ≤ '5' && b.isDigit
  | _ => false

/-- Whether a text is digits with at least one sexagesimal digit behind them. -/
def isSixties (isFirst : Char → Bool) (s : List Char) : Bool :=
  match colonParts s with
  | first :: second :: others => isDigits isFirst first && (second :: others).all isSixty
  | _ => false

/-- Whether a digit is not zero. -/
def isPositiveDigit (c : Char) : Bool := c.isDigit && c != '0'

/-- Whether a text looks like an integer: binary, hexadecimal, octal, decimal or sexagesimal. -/
def isInteger (s : List Char) : Bool :=
  match unsigned s with
  | '0' :: 'b' :: d :: rest => (d :: rest).all fun c => c == '0' || c == '1' || c == '_'
  | '0' :: 'x' :: d :: rest => (d :: rest).all fun c => (Numeral.digitValue? c).isSome || c == '_'
  | '0' :: rest => rest.all fun c => ('0' ≤ c && c ≤ '7') || c == '_'
  | body => isDigits isPositiveDigit body || isSixties isPositiveDigit body

/-- Whether a text is nothing or an exponent, which needs a sign. -/
def isExponent (s : List Char) : Bool :=
  match s with
  | [] => true
  | e :: mark :: digits =>
    (e == 'e' || e == 'E') && (mark == '-' || mark == '+') && !digits.isEmpty &&
      digits.all Char.isDigit
  | _ => false

/-- Whether a text looks like a number with a point: decimal, sexagesimal, infinite or no number. -/
def isFloat (s : List Char) : Bool :=
  let before := (unsigned s).takeWhile (· ≠ '.')
  match (unsigned s).dropWhile (· ≠ '.') with
  | [] => false
  | _ :: after =>
    let word := String.ofList after
    let decimals := isExponent (after.dropWhile isDigitOrGap)
    let pointFirst := s.head? == some '.'
    (before.isEmpty && ["inf", "Inf", "INF"].contains word) ||
    (pointFirst && ["nan", "NaN", "NAN"].contains word) ||
      (pointFirst && after.head?.any Char.isDigit && decimals) ||
      (isDigits Char.isDigit before && decimals) ||
      (isSixties Char.isDigit before && after.all isDigitOrGap)

/-- The type that a scalar looks like. -/
def implicit (s : List Char) : Tag :=
  let body := withoutLineFeed s
  let word := String.ofList body
  if s.isEmpty then .null
  else if trueWords.contains word || falseWords.contains word then .bool
  else if isFloat body then .float
  else if isInteger body then .int
  else if word = "<<" then .merge
  else if nullWords.contains word then .null
  else if isTimestamp body then .timestamp
  else if word = "=" then .value
  else if ["!", "&", "*"].contains word then .unknown
  else .str

end Tag

end ApiStore.Yaml
