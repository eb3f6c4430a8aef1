import ApiStore.Text.Half
/-
`Cursor.lean` -- a place in a YAML text.

In YAML the column of a character matters, so a reader has to know not only what is
left of a text but where it stands. A cursor is both. Lines end with any of five
characters, or with two of them together, which count as one end.
-/
set_option autoImplicit false

namespace ApiStore.Yaml

/-! ## 1. Characters -/

/-- Whether a character ends a line. -/
def isBreak (c : Char) : Bool := c == '\n' || c == '\r' || c == '\x85' || c == '\u2028' ||
    c == '\u2029'

/-- Whether a character is a blank or a tab. -/
def isBlank (c : Char) : Bool := c == ' ' || c == '\t'

/-- Whether a word ends here: at a blank, a line end, or the end of the text. -/
def endsWord (c : Option Char) : Bool := c.all fun c => isBlank c || isBreak c

/-- Whether a line ends here. -/
def endsLine (c : Option Char) : Bool := c.all isBreak

/-- Whether a character may stand in a YAML text. -/
def isAllowed (c : Char) : Bool :=
  let n := Text.code c
  n == 9 || n == 10 || n == 13 || (32 ≤ n && n ≤ 126) || n == 0x85 || (0xA0 ≤ n && n ≤ 0xD7FF) ||
    (0xE000 ≤ n && n ≤ 0xFFFD) || 0x10000 ≤ n

/-- The line end at the start of a text, as it is kept, and what follows it. -/
def lineEnd? (s : List Char) : Option (Char × List Char) :=
  match s with
  | '\r' :: '\n' :: rest => some ('\n', rest)
  | c :: rest =>
    if c == '\u2028' || c == '\u2029' then some (c, rest) else if isBreak c then some
      ('\n', rest) else none
  | [] => none

/-- Whether a line starts with the mark of a new document or of a document's end. -/
def atDocumentMark (s : List Char) : Bool :=
  match s with
  | '-' :: '-' :: '-' :: rest | '.' :: '.' :: '.' :: rest => endsWord rest.head?
  | _ => false

/-! ## 2. Cursors -/

/-- What is left of a text, with the line, the column and the number of characters before it. -/
structure Cursor where
  rest : List Char
  line : Nat
  column : Nat
  index : Nat

namespace Cursor

/-- The start of a text. -/
def start (text : List Char) : Cursor := { rest := text, line := 0, column := 0, index := 0 }

/-- The character some places ahead. -/
def peek (c : Cursor) (ahead : Nat) : Option Char := c.rest[ahead]?

/-- The place one character further. -/
def next (c : Cursor) : Cursor :=
  match c.rest with
  | [] => c
  | ch :: rest =>
    if isBreak ch && !(ch == '\r' && rest.head? == some '\n') then
      { rest := rest, line := c.line + 1, column := 0, index := c.index + 1 }
    else
      { rest := rest, line := c.line, column := if ch == '\uFEFF' then c.column else c.column + 1,
        index := c.index + 1 }

/-- The place some characters further. -/
def skip (c : Cursor) : (count : Nat) → Cursor
  | 0 => c
  | count + 1 => c.next.skip count

/-- The place at which a given rest is left. -/
def skipTo (c : Cursor) (rest : List Char) : Cursor := c.skip (c.rest.length - rest.length)

/-- The place behind the blanks. -/
def skipBlanks (c : Cursor) : Cursor := c.skip (c.rest.takeWhile (· == ' ')).length

/-- The place at the end of the line. -/
def skipLine (c : Cursor) : Cursor := c.skip (c.rest.takeWhile fun ch => !isBreak ch).length

/-- The place behind a line end, and the line end, if one is here. -/
def lineEnd? (c : Cursor) : Option (Char × Cursor) :=
  (Yaml.lineEnd? c.rest).map fun (ch, rest) => (ch, c.skipTo rest)

end Cursor

end ApiStore.Yaml
