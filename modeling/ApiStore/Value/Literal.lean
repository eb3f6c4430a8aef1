import ApiStore.Text.Quoted
import ApiStore.Value
/-
`Literal.lean` -- values as messages show them.

A message that quotes a value uses its literal form, in which texts are quoted and
null, true and false are written `None`, `True` and `False`. A message that names a
value uses its display form, which differs for a text alone, shown as it is, and for
dates, shown in ISO form.
-/
set_option autoImplicit false

namespace ApiStore

/-- Doubles in messages. -/
def messageNumbers : NumberStyle :=
  { nan := "nan", infinite := "inf", negInfinite := "-inf", pointBeforeExponent := false }

/-- The offset of a date-time in literal form: the parts of a span that are not zero. A negative
span is a negative number of days, and positive numbers of seconds and microseconds. -/
def offsetLiteral (micros : Int) : String :=
  if micros = 0 then "datetime.timezone.utc"
  else
    let days := micros / DateTime.dayMicros
    let rest := micros % DateTime.dayMicros
    let parts := [("days", days), ("seconds", rest / 1000000), ("microseconds", rest % 1000000)]
    let shown := (parts.filter fun (_, n) => n ≠ 0).map fun (name, n) => name ++ "=" ++ intText n
    "datetime.timezone(datetime.timedelta(" ++ ", ".intercalate shown ++ "))"

/-- A date-time in literal form: trailing zeros among seconds and microseconds are left out. -/
def DateTime.literal (t : DateTime) : String :=
  let tail := if t.micro ≠ 0 then [t.second, t.micro] else if t.second ≠ 0 then [t.second] else []
  let parts := ([t.date.year, t.date.month, t.date.day, t.hour, t.minute] ++ tail).map natText
  let zone := (t.offset.map fun o => ["tzinfo=" ++ offsetLiteral o]).getD []
  "datetime.datetime(" ++ ", ".intercalate (parts ++ zone) ++ ")"

/-- A date in literal form. -/
def Date.literal (d : Date) : String :=
  "datetime.date(" ++ ", ".intercalate ([d.year, d.month, d.day].map natText) ++ ")"

/-- The literal form of an atom. -/
def Scalar.literal : Scalar → String
  | .null => "None"
  | .bool b => if b then "True" else "False"
  | .int i => intText i
  | .double d => d.text messageNumbers
  | .str s => Text.quoted s
  | .bytes b => Text.quotedBytes b
  | .date d => d.literal
  | .dateTime t => t.literal

/-- The display form of an atom. -/
def Scalar.display : Scalar → String
  | .str s => s
  | .date d => d.iso
  | .dateTime t => t.spaced
  | s => s.literal

namespace Value

mutual

/-- The literal form of a value. -/
def literal : Value → String
  | .scalar s => s.literal
  | .list items => "[" ++ ", ".intercalate (literalItems items) ++ "]"
  | .map entries => "\x7b" ++ ", ".intercalate (literalEntries entries) ++ "\x7d"
  | .set [] => "set()"
  | .set members => "\x7b" ++ ", ".intercalate (members.map Scalar.literal) ++ "\x7d"
  | .pair a b => "(" ++ literal a ++ ", " ++ literal b ++ ")"

/-- The literal forms of the items of a list. -/
def literalItems : List Value → List String
  | [] => []
  | v :: rest => literal v :: literalItems rest

/-- The literal forms of entries. -/
def literalEntries : List (Scalar × Value) → List String
  | [] => []
  | (k, v) :: rest => (k.literal ++ ": " ++ literal v) :: literalEntries rest

end

/-- The display form of a value. -/
def display : Value → String
  | .scalar s => s.display
  | v => v.literal

end Value

end ApiStore
