import ApiStore.Yaml.Reader
/-
`Printer.lean` -- values as YAML texts.

Lists and tables are written as blocks, one entry a line, and in brackets only if they
are empty. A list that is the value of a key stands at the key's own column. A text is
written plainly if it reads back as the same text, else in single quotes, else in double
quotes; a long one is broken at blanks.

**The page.** Whether a blank or a new line is needed before the next mark depends on
what was written last, so the printer works on a page, which knows its column, whether a
blank was just written, and whether nothing but indentation stands on the current line.
-/
set_option autoImplicit false

namespace ApiStore.Yaml

/-! ## 1. The page -/

/-- A text that is being written. -/
structure Page where
  text : String
  column : Nat
  /-- Whether the last thing written separates. -/
  spaced : Bool
  /-- Whether the current line holds nothing but indentation and marks of entries. -/
  indented : Bool

namespace Page

/-- The column beyond which a text is broken. -/
def width : Nat := 80

/-- The empty page. -/
def blank : Page := { text := "", column := 0, spaced := true, indented := true }

/-- Appends a text without line ends. -/
def put (p : Page) (s : String) : Page :=
  { p with text := p.text ++ s, column := p.column + s.length }

/-- Ends the line. -/
def endLine (p : Page) (c : Char) : Page :=
  { text := p.text.push c, column := 0, spaced := true, indented := true }

/-- Moves to a column, on a new line unless the current one is free up to there. -/
def indent (p : Page) (column : Nat) : Page :=
  let fresh :=
    if !p.indented || column < p.column ||
    (p.column == column && !p.spaced) then p.endLine '\n' else p
  if fresh.column < column then
    { fresh.put (String.ofList (List.replicate (column - fresh.column) ' ')) with spaced := true }
  else fresh

/-- Writes a mark, with a blank before it if one is needed; `keeps` tells whether the line still
counts as indentation after it. -/
def mark (p : Page) (s : String) (needsSpace spacedAfter keeps : Bool) : Page :=
  let written := if p.spaced || !needsSpace then p.put s else p.put (" " ++ s)
  { written with spaced := spacedAfter, indented := p.indented && keeps }

/-- A page on which a text was just broken. -/
def broken (p : Page) : Page := { p with spaced := false, indented := false }

end Page

/-! ## 2. Kinds of texts -/

/-- Whether a character is a line end that a scalar keeps. -/
def isScalarBreak (c : Char) : Bool := c == '\n' || c == '\x85' || c == '\u2028' || c == '\u2029'

/-- Whether a character separates words, or is none. -/
def separates (c : Option Char) : Bool := c.all fun c => c == '\x00' || isBlank c || c == '\r' ||
    isScalarBreak c

/-- Whether a character can be written only in an escape. -/
def isSpecial (unicode : Bool) (c : Char) : Bool :=
  let n := Text.code c
  let isText := n == 0x85 || (0xA0 ≤ n && n ≤ 0xD7FF) || (0xE000 ≤ n && n ≤ 0xFFFD) ||
    (0x10000 ≤ n && n < 0x10FFFF)
  !(c == '\n' || (0x20 ≤ n && n ≤ 0x7E) || (isText && c != '\uFEFF' && unicode))

/-- Whether a text cannot be plain because of how it starts. -/
def startsMarked (s : List Char) : Bool :=
  match s with
  | [] => false
  | c :: rest =>
    "#,[]\x7b\x7d&*!|>'\"%@\x60".toList.contains c ||
      ((c == '?' || c == ':' || c == '-') && separates rest.head?) ||
      ['-', '-', '-'].isPrefixOf s || ['.', '.', '.'].isPrefixOf s

/-- Whether a text cannot be plain because of a colon or a number sign within it. -/
def holdsMark : List Char → Bool
  | a :: b :: rest =>
    (b == ':' && separates rest.head?) || (b == '#' && separates (some a)) || holdsMark (b :: rest)
  | _ => false

/-- Whether two kinds of characters follow each other somewhere. -/
def hasPair (first second : Char → Bool) : List Char → Bool
  | a :: b :: rest => (first a && second b) || hasPair first second (b :: rest)
  | _ => false

/-- Whether a character is a blank. -/
def isSpace (c : Char) : Bool := c == ' '

/-- Whether a text may be written in single quotes. -/
def fitsSingle (unicode : Bool) (s : List Char) : Bool :=
  !s.any (isSpecial unicode) && !hasPair isScalarBreak isSpace s && !hasPair isSpace isScalarBreak s

/-- Whether a text may be written plainly in a block. -/
def fitsPlain (unicode : Bool) (s : List Char) : Bool :=
  let edge (c : Option Char) : Bool := c.any fun c => isSpace c || isScalarBreak c
  !startsMarked s && !holdsMark s && !s.any isScalarBreak && !s.any (isSpecial unicode) &&
    !edge s.head? && !edge s.getLast?

/-- Whether a plain scalar would be read as the text that it is. -/
def readsAsText (s : String) : Bool := Tag.implicit s.toList == .str

/-- How a text is written. -/
inductive ScalarStyle where
  | plain
  | single
  | double
  deriving DecidableEq

/-- The style of a text; a key that is written before its colon has to be on one line. -/
def styleOf (unicode isKey : Bool) (s : String) : ScalarStyle :=
  let chars := s.toList
  let lines := chars.any isScalarBreak
  if readsAsText s && fitsPlain unicode chars && !(isKey && (chars.isEmpty || lines)) then .plain
  else if fitsSingle unicode chars && !(isKey && lines) then .single
  else .double

/-! ## 3. Scalars -/

/-- What a run of characters consists of. -/
inductive RunKind where
  | spaces
  | breaks
  | others
  deriving DecidableEq

/-- The kind of run that a character belongs to. -/
def runKind (c : Char) : RunKind :=
  if isSpace c then .spaces else if isScalarBreak c then .breaks else .others

/-- The runs of a text. -/
def runs : List Char → List (RunKind × List Char)
  | [] => []
  | c :: rest =>
    match runs rest with
    | (kind, run) :: more =>
      if kind = runKind c then (kind, c :: run) :: more else (runKind c, [c]) :: (kind, run) :: more
    | [] => [(runKind c, [c])]

/-- Writes a text plainly. Where the line is full, a single blank becomes a line end. -/
def Page.plain (p : Page) (column : Nat) (split : Bool) (s : String) : Page :=
  if s.isEmpty then p
  else
    let start := ({ if p.spaced then p else p.put " " with spaced := false, indented := false } :
      Page)
    (runs s.toList).foldl
      (fun page (kind, run) =>
        if kind = .spaces ∧ run.length = 1 ∧ Page.width < page.column ∧ split then
          (page.indent column).broken
        else page.put (String.ofList run))
      start

/-- Writes a run of line ends in quotes: a line feed is written twice, since one is read as a
blank. -/
def Page.breaks (p : Page) (column : Nat) (run : List Char) : Page :=
  let first := if run.head? = some '\n' then p.endLine '\n' else p
  (run.foldl Page.endLine first).indent column

/-- Writes the runs of a text in single quotes, the first of which may be the first of the text. -/
def Page.singleRuns (column : Nat) (split : Bool) : (first : Bool) → List (RunKind × List Char) →
    Page → Page
  | _, [], p => p
  | first, (kind, run) :: rest, p =>
    let next := match kind with
      | .spaces =>
        if run.length = 1 ∧ Page.width < p.column ∧ split ∧ ¬ first ∧ ¬ rest.isEmpty then
          p.indent column
        else p.put (String.ofList run)
      | .breaks => p.breaks column run
      | .others =>
        p.put (String.ofList (run.flatMap fun c => if c = '\'' then ['\'', '\''] else [c]))
    Page.singleRuns column split false rest next

/-- Writes a text in single quotes. -/
def Page.single (p : Page) (column : Nat) (split : Bool) (s : String) : Page :=
  (Page.singleRuns column split true (runs s.toList)
    (p.mark "'" true false false)).mark "'" false false false

/-- The letter that stands for a character after a backslash. -/
def escapeLetter? (c : Char) : Option Char :=
  match c with
  | '\x00' => some '0'
  | '\x07' => some 'a'
  | '\x08' => some 'b'
  | '\t' => some 't'
  | '\n' => some 'n'
  | '\x0b' => some 'v'
  | '\x0c' => some 'f'
  | '\r' => some 'r'
  | '\x1b' => some 'e'
  | '"' => some '"'
  | '\\' => some '\\'
  | '\x85' => some 'N'
  | '\xa0' => some '_'
  | '\u2028' => some 'L'
  | '\u2029' => some 'P'
  | _ => none

/-- A number in hexadecimal capitals. -/
def hexCapitals (width n : Nat) : String :=
  String.ofList ((Text.hex width n).toList.map Char.toUpper)

/-- The escape of a character. -/
def escape (c : Char) : String :=
  let n := Text.code c
  match escapeLetter? c with
  | some e => String.ofList ['\\', e]
  | none =>
    if n < 0x100 then "\\x" ++ hexCapitals 2 n
    else if n < 0x10000 then "\\u" ++ hexCapitals 4 n
    else "\\U" ++ hexCapitals 8 n

/-- Whether a character is escaped in double quotes. -/
def isEscaped (unicode : Bool) (c : Char) : Bool :=
  let n := Text.code c
  c == '"' || c == '\\' || c == '\uFEFF' ||
    !((0x20 ≤ n && n ≤ 0x7E) || (unicode &&
      ((0xA0 ≤ n && n ≤ 0xD7FF && n != 0x2028 && n != 0x2029) ||
      (0xE000 ≤ n && n ≤ 0xFFFD))))

/-- Writes characters in double quotes. Where the line is full it ends in a backslash, before a
blank or next to an escape; a blank that starts a line has a backslash too. `first` holds for the
first character of the text, and `afterEscape` behind an escape. -/
def Page.doubleChars (unicode : Bool) (column : Nat) (split : Bool) :
    (first afterEscape : Bool) → List Char → Page → Page
  | _, _, [], p => p
  | first, afterEscape, c :: rest, p =>
    let mayBreak := !first && !rest.isEmpty && split
    if isEscaped unicode c then
      let written := p.put (escape c)
      let next :=
        if mayBreak && decide (Page.width < written.column - 1) then
          let fresh := ((written.put "\\").indent column).broken
          if rest.head? = some ' ' then fresh.put "\\" else fresh
        else written
      Page.doubleChars unicode column split false true rest next
    else
      let before :=
        if mayBreak && (c == ' ' || afterEscape) && decide (Page.width < p.column) then
          let fresh := ((p.put "\\").indent column).broken
          if c = ' ' then fresh.put "\\" else fresh
        else p
      Page.doubleChars unicode column split false false rest (before.put (String.singleton c))

/-- Writes a text in double quotes. -/
def Page.double (p : Page) (unicode : Bool) (column : Nat) (split : Bool) (s : String) : Page :=
  (Page.doubleChars unicode column split true false s.toList
    (p.mark "\"" true false false)).mark "\"" false false false

/-- Writes a text in its style. -/
def Page.string (p : Page) (unicode isKey : Bool) (column : Nat) (s : String) : Page :=
  match styleOf unicode isKey s with
  | .plain => p.plain column (!isKey) s
  | .single => p.single column (!isKey) s
  | .double => p.double unicode column (!isKey) s

/-- Doubles in YAML. -/
def numbers : NumberStyle :=
  { nan := ".nan", infinite := ".inf", negInfinite := "-.inf", pointBeforeExponent := true }

/-- Writes an atom; dates and byte strings are written as texts. -/
def Page.scalar (p : Page) (unicode isKey : Bool) (column : Nat) : Scalar → Page
  | .null => p.plain column (!isKey) "null"
  | .bool b => p.plain column (!isKey) (if b then "true" else "false")
  | .int i => p.plain column (!isKey) (intText i)
  | .double d => p.plain column (!isKey) (d.text numbers)
  | .str s => p.string unicode isKey column s
  | s => p.string unicode isKey column s.display

/-! ## 4. Values -/

/-- Whether a key can be written before its colon on one line: it is short, and not empty. -/
def isSimpleKey (k : Scalar) : Bool :=
  match k with
  | .str s => !s.isEmpty && !s.toList.any isScalarBreak && s.length + 5 < 128
  | _ => true

mutual

/-- Writes a value within a block at a column; `inMap` tells whether the block is a table. -/
def Page.value (unicode : Bool) (column : Nat) (inMap : Bool) : Value → Page → Page
  | .scalar s, p => p.scalar unicode false (column + 2) s
  | .list [], p => (p.mark "[" true true false).mark "]" false false false
  | .map [], p => (p.mark "\x7b" true true false).mark "\x7d" false false false
  | .set members, p => p.string unicode false (column + 2) (Value.set members).display
  | .list (v :: rest), p =>
    Page.items unicode (if inMap && !p.indented then column else column + 2) (v :: rest) p
  | .map (e :: rest), p => Page.entries unicode (column + 2) (e :: rest) p
  | .pair a b, p =>
    let start := if inMap && !p.indented then column else column + 2
    let first := Page.value unicode start false a ((p.indent start).mark "-" true false true)
    Page.value unicode start false b ((first.indent start).mark "-" true false true)

/-- Writes the items of a list. -/
def Page.items (unicode : Bool) (column : Nat) : List Value → Page → Page
  | [], p => p
  | v :: rest, p =>
    Page.items unicode column rest
      (Page.value unicode column false v ((p.indent column).mark "-" true false true))

/-- Writes the entries of a table. -/
def Page.entries (unicode : Bool) (column : Nat) : List (Scalar × Value) → Page → Page
  | [], p => p
  | (k, v) :: rest, p =>
    let start := p.indent column
    let colon :=
      if isSimpleKey k then (start.scalar unicode true (column + 2) k).mark ":" false false false
      else
        (((start.mark "?" true false true).scalar unicode false
          (column + 2) k).indent column).mark ":" true false true
    Page.entries unicode column rest (Page.value unicode column true v colon)

end

/-- The YAML text of a table; `unicode` lets characters beyond ASCII stand for themselves. -/
def text (unicode : Bool) (entries : Entries Value) : String :=
  match entries with
  | [] => "\x7b\x7d\n"
  | _ => ((Page.entries unicode 0 entries .blank).indent 0).text

end ApiStore.Yaml
