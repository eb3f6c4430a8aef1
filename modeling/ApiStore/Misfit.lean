import ApiStore.Text.Decoding
import ApiStore.Value.Literal
/-
`Misfit.lean` -- data that does not fit the record it is meant for.

A record declares what each of its parts may hold. Where data comes from outside, every
part is checked and all misfits are reported together, each with its place, what is
wrong there, and the value found. A key of a table that is not a text is a misfit of the
key, placed under the key itself. Where a text is wanted, bytes that spell one will do.
-/
set_option autoImplicit false

namespace ApiStore

/-- What can be wrong with one part of a record. -/
inductive Flaw where
  | notText
  | notUnicode
  | notTable
  | notInteger
  | unreadableInteger
  | oversizedInteger
  | fractionalInteger
  | notFinite
  | below (least : Int)
  deriving DecidableEq, Repr

namespace Flaw

/-- The code of a flaw. -/
def code : Flaw → String
  | .notText => "string_type"
  | .notUnicode => "string_unicode"
  | .notTable => "dict_type"
  | .notInteger => "int_type"
  | .unreadableInteger => "int_parsing"
  | .oversizedInteger => "int_parsing_size"
  | .fractionalInteger => "int_from_float"
  | .notFinite => "finite_number"
  | .below _ => "greater_than_equal"

/-- The words for a flaw. -/
def message : Flaw → String
  | .notText => "Input should be a valid string"
  | .notUnicode => "Input should be a valid string, unable to parse raw data as a unicode string"
  | .notTable => "Input should be a valid dictionary"
  | .notInteger => "Input should be a valid integer"
  | .unreadableInteger => "Input should be a valid integer, unable to parse string as an integer"
  | .oversizedInteger => "Unable to parse input string as an integer, exceeded maximum size"
  | .fractionalInteger => "Input should be a valid integer, got a number with a fractional part"
  | .notFinite => "Input should be a finite number"
  | .below least => "Input should be greater than or equal to " ++ intText least

end Flaw

/-- A part of a record that does not fit: its place, from the outside in, and the value found. -/
structure Misfit where
  place : List String
  flaw : Flaw
  found : Value
  deriving DecidableEq, Repr

namespace Misfit

/-! ## 1. Texts -/

/-- The text that a value is, or that its bytes spell. -/
def textOf : Value → Except Flaw String
  | .str s => .ok s
  | .scalar (.bytes b) =>
    match Text.decodeUtf8 b with
    | .ok s => .ok s
    | .error _ => .error .notUnicode
  | _ => .error .notText

/-- The name of a key in a place. -/
def keyName : Scalar → String
  | .str s => s
  | .int i => intText i
  | .bool b => if b then "1" else "0"
  | k => k.literal

/-- The misfits of the keys of a table that has to have texts for keys. -/
def ofKeys {α : Type} (place : List String) (entries : List (Scalar × α)) : List Misfit :=
  entries.filterMap fun (k, _) =>
    match textOf (.scalar k) with
    | .ok _ => none
    | .error flaw =>
      some { place := place ++ [keyName k, "[key]"], flaw := flaw, found := .scalar k }

/-- A key whose bytes spell a text as that text; any other key as it is. -/
def spelledKey (k : Scalar) : Scalar :=
  match textOf (.scalar k) with
  | .ok s => .str s
  | .error _ => k

/-- Whether a key is a byte string. -/
def isBytes : Scalar → Bool
  | .bytes _ => true
  | _ => false

/-- A table in which keys that spell a text are that text. Such a key may replace another one. -/
def spelled {α : Type} (entries : Entries α) : Entries α :=
  if entries.any fun (k, _) => isBytes k then
    Entries.ofList (entries.map fun (k, v) => (spelledKey k, v))
  else
    entries

/-! ## 2. The report -/

/-- Where the meaning of the codes is explained: the parts of an address. -/
structure Manual where
  scheme : String
  host : String
  edition : String
  chapter : String

/-- The manual that reports refer to. -/
def manual : Manual :=
  { scheme := "https", host := "errors.pydantic.dev", edition := "2.14", chapter := "v" }

/-- The address of a flaw's explanation. -/
def Manual.address (m : Manual) (flaw : Flaw) : String :=
  m.scheme ++ "://" ++ "/".intercalate [m.host, m.edition, m.chapter, flaw.code]

/-- Characters from the start of a text that take at most `room` bytes. -/
def fitting : (room : Nat) → List Char → List Char
  | _, [] => []
  | room, c :: rest => if c.utf8Size ≤ room then c :: fitting (room - c.utf8Size) rest else []

/-- A text of at most fifty bytes, its middle left out if it is longer. -/
def shortened (s : String) : String :=
  if s.utf8ByteSize ≤ 50 then s
  else String.ofList (fitting 25 s.toList) ++ "..." ++
    String.ofList (fitting 24 s.toList.reverse).reverse

/-- A step of a place; one with a point inside is set off. -/
def stepText (step : String) : String :=
  if '.' ∈ step.toList then "\x60" ++ step ++ "\x60" else step

/-- The lines of one misfit. -/
def text (m : Misfit) : String :=
  ".".intercalate (m.place.map stepText) ++ "\n  " ++ m.flaw.message ++ " [type=" ++ m.flaw.code ++
    ", input_value=" ++ shortened m.found.literal ++ ", input_type=" ++ m.found.kind ++
    "]\n    For further information visit " ++ manual.address m.flaw

/-- The report of all misfits of a record. -/
def report (record : String) (misfits : List Misfit) : String :=
  natText misfits.length ++ " validation error" ++ (if misfits.length = 1 then "" else "s") ++
    " for " ++ record ++ "\n" ++ "\n".intercalate (misfits.map text)

end Misfit

end ApiStore
