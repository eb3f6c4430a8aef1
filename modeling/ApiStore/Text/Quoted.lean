import ApiStore.Text.Half
import ApiStore.Text.Printable
/-
`Quoted.lean` -- texts in quotation marks.

Two forms are written. Messages quote a text for a reader, in single quotes, or in
double quotes if that saves escaping a single quote, and escape only what could not be
seen. JSON quotes in double quotes and escapes everything outside printable ASCII, as
UTF-16 units, so that its text survives any transport.
-/
set_option autoImplicit false

namespace ApiStore.Text

/-! ## 1. Escapes -/

/-- A digit in base sixteen, in lower case. -/
def hexDigit (n : Nat) : Char := "0123456789abcdef".toList.getD n '0'

/-- The last `width` hexadecimal digits of a number. -/
def hex (width n : Nat) : String :=
  String.ofList ((List.range width).reverse.map fun i => hexDigit (n / Nat.pow 16 i % 16))

/-- The escape of a code point in messages: two, four or eight digits, as few as will do. -/
def codeEscape (n : Nat) : String :=
  if n < 256 then "\\x" ++ hex 2 n else if n < 65536 then "\\u" ++ hex 4 n else "\\U" ++ hex 8 n

/-! ## 2. Quoting for messages -/

/-- The mark to quote with: double only if the content has a single quote and no double one. -/
def quoteMark (content : List Nat) : Char := if 39 ∈ content ∧ 34 ∉ content then '"' else '\''

/-- A character between quotation marks. -/
def quotedChar (mark c : Char) : String :=
  if c = mark ∨ c = '\\' then String.ofList ['\\', c]
  else if c = '\t' then "\\t"
  else if c = '\n' then "\\n"
  else if c = '\r' then "\\r"
  else if isPrintable c then String.singleton c
  else codeEscape (code c)

/-- A text quoted for a message. -/
def quoted (s : String) : String :=
  let mark := quoteMark (s.toList.map Char.toNat)
  String.singleton mark ++ String.join (s.toList.map (quotedChar mark)) ++ String.singleton mark

/-- A byte between quotation marks: like a character, but nothing beyond ASCII is printable. -/
def quotedByte (mark : Char) (b : UInt8) : String :=
  if b.toNat < 127 then quotedChar mark (Char.ofNat b.toNat) else codeEscape b.toNat

/-- Bytes quoted for a message. -/
def quotedBytes (b : List UInt8) : String :=
  let mark := quoteMark (b.map UInt8.toNat)
  "b" ++ String.singleton mark ++ String.join (b.map (quotedByte mark)) ++ String.singleton mark

/-! ## 3. Quoting for JSON -/

/-- The UTF-16 units of a code point. -/
def utf16Units (n : Nat) : List Nat :=
  if n < 65536 then [n] else [0xD800 + (n - 65536) / 1024, 0xDC00 + (n - 65536) % 1024]

/-- A character between the quotation marks of JSON. -/
def jsonChar (c : Char) : String :=
  if c = '"' then "\\\""
  else if c = '\\' then "\\\\"
  else if c = '\n' then "\\n"
  else if c = '\r' then "\\r"
  else if c = '\t' then "\\t"
  else if c = '\x0c' then "\\f"
  else if c = '\x08' then "\\b"
  else if 32 ≤ c.toNat ∧ c.toNat < 127 then String.singleton c
  else String.join ((utf16Units (code c)).map fun u => "\\u" ++ hex 4 u)

/-- A text quoted for JSON. -/
def jsonQuoted (s : String) : String := "\"" ++ String.join (s.toList.map jsonChar) ++ "\""

end ApiStore.Text
