import ApiStore.Fault
import ApiStore.Number.Numeral
import ApiStore.Yaml.Cursor
/-
`Scalar.lean` -- the scalars of a YAML text.

A scalar is written plainly, in quotes of two kinds, or as a block below its
introduction. In all of them a text may go over several lines; a line end between two
lines of text becomes a blank, and of several the first is dropped. Only a block can
keep its line ends.

**Escapes beyond Unicode.** In double quotes a character may be given by a number of eight
digits. One that is no character's is a fault of its own, other than that of a text that
is not YAML, and there are two such faults, for a number that is merely too large and for
one that does not fit 31 bits.
-/
set_option autoImplicit false

namespace ApiStore.Yaml

/-! ## 1. Folded line ends -/

/-- The line ends of empty lines, and what follows them; tabs may stand on the lines as well as
blanks. A document mark ends the reading. -/
def emptyLines : (steps : Nat) → List Char → Option (List Char × List Char)
  | 0, _ => none
  | steps + 1, s =>
    if atDocumentMark s then none
    else
      let rest := s.dropWhile isBlank
      match lineEnd? rest with
      | some (c, after) => (emptyLines steps after).map fun (more, final) => (c :: more, final)
      | none => some ([], rest)

/-- What a line end and the empty lines after it become. -/
def fold (first : Char) (others : List Char) : List Char :=
  if first ≠ '\n' then first :: others else if others.isEmpty then [' '] else others

/-! ## 2. Quoted scalars -/

/-- The character of a letter after a backslash. -/
def letterEscape? (c : Char) : Option Char :=
  match c with
  | '0' => some '\x00'
  | 'a' => some '\x07'
  | 'b' => some '\x08'
  | 't' | '\t' => some '\t'
  | 'n' => some '\n'
  | 'v' => some '\x0b'
  | 'f' => some '\x0c'
  | 'r' => some '\r'
  | 'e' => some '\x1b'
  | ' ' => some ' '
  | '"' => some '"'
  | '\\' => some '\\'
  | '/' => some '/'
  | 'N' => some '\x85'
  | '_' => some '\xa0'
  | 'L' => some '\u2028'
  | 'P' => some '\u2029'
  | _ => none

/-- How many hexadecimal digits follow a letter after a backslash. -/
def codeLength? (c : Char) : Option Nat :=
  match c with
  | 'x' => some 2
  | 'u' => some 4
  | 'U' => some 8
  | _ => none

/-- The character of a number. -/
def charOfCode (code : Nat) : Except Fault Char :=
  if code < 0x110000 then .ok (Text.charOfUnit code)
  else if code < Nat.pow 2 31 then .error (.range "chr() arg not in range(0x110000)")
  else .error (.overflow "signed integer is greater than maximum")

/-- A part that has to be there; a text without it is not YAML. -/
def wanted {α : Type} : Option α → Except Fault α
  | some part => .ok part
  | none => .error .yaml

/-- What an escape stands for; the text is passed from behind the backslash. A line end that is
escaped is dropped. -/
def escaped (s : List Char) : Except Fault (List Char × List Char) :=
  match s with
  | [] => .error .yaml
  | c :: rest =>
    match letterEscape? c, codeLength? c, lineEnd? s with
    | some e, _, _ => .ok ([e], rest)
    | none, some count, _ => do
      let digits ← wanted ((rest.take count).mapM Numeral.digitValue?)
      if digits.length < count then throw .yaml
      return ([← charOfCode (Numeral.ofDigits 16 digits)], rest.drop count)
    | none, none, some (_, after) => wanted (emptyLines (after.length + 1) after)
    | none, none, none => .error .yaml

/-- Blanks between words in quotes: as they are, unless a line ends there. -/
def blanks (s : List Char) : Except Fault (List Char × List Char) :=
  let here := s.takeWhile isBlank
  let rest := s.dropWhile isBlank
  match lineEnd? rest with
  | some (c, after) =>
    (wanted (emptyLines (after.length + 1) after)).map fun (more, final) => (fold c more, final)
  | none => .ok (here, rest)

/-- The text of a quoted scalar up to its closing mark. -/
def quoted (mark : Char) : (steps : Nat) → List Char → Except Fault (List Char × List Char)
  | 0, _ => .error .yaml
  | steps + 1, s =>
    let before (part : List Char × List Char) : Except Fault (List Char × List Char) :=
      (quoted mark steps part.2).map fun (more, final) => (part.1 ++ more, final)
    match s with
    | [] => .error .yaml
    | c :: rest =>
      if c = mark then
        if mark = '\'' ∧ rest.head? = some '\'' then before (['\''], rest.tail) else .ok ([], rest)
      else if mark = '"' ∧ c = '\\' then escaped rest >>= before
      else if isBlank c || isBreak c then blanks s >>= before
      else before ([c], rest)

/-! ## 3. Plain scalars -/

/-- Whether a plain scalar stops at the start of a text. Inside brackets more characters stop it. -/
def stopsPlain (inFlow : Bool) (s : List Char) : Bool :=
  match s with
  | [] => true
  | ':' :: rest =>
    endsWord rest.head? || (inFlow && rest.head?.any [',', '[', ']', '\x7b', '\x7d'].contains)
  | c :: _ => isBlank c || isBreak c || (inFlow && [',', '?', '[', ']', '\x7b', '\x7d'].contains c)

/-- A word of a plain scalar, and what follows it. -/
def plainWord (inFlow : Bool) : List Char → List Char × List Char
  | [] => ([], [])
  | c :: rest =>
    if stopsPlain inFlow (c :: rest) then ([], c :: rest)
    else
      let (word, final) := plainWord inFlow rest
      (c :: word, final)

/-- What separates two words of a plain scalar. -/
structure Gap where
  /-- What the gap becomes if another word follows; nothing if none can. -/
  between : List Char
  /-- Whether a line ends in the gap. -/
  broken : Bool
  /-- The column at which the gap ends, if a line ends in it. -/
  column : Nat
  rest : List Char

/-- Empty lines within a plain scalar: their line ends, the column of what follows, and what
follows. Nothing if a document mark follows. -/
def plainLines : (steps : Nat) → List Char → Option (List Char) × Nat × List Char
  | 0, s => (none, 0, s)
  | steps + 1, s =>
    if atDocumentMark s then (none, 0, s)
    else
      let blanks := s.takeWhile (· == ' ')
      let rest := s.dropWhile (· == ' ')
      match lineEnd? rest with
      | some (c, after) =>
        let (more, column, final) := plainLines steps after
        (more.map (c :: ·), column, final)
      | none => (some [], blanks.length, rest)

/-- The gap at the start of a text. -/
def gap (s : List Char) : Gap :=
  let blanks := s.takeWhile (· == ' ')
  let rest := s.dropWhile (· == ' ')
  match lineEnd? rest with
  | some (c, after) =>
    let (more, column, final) := plainLines (after.length + 1) after
    { between := (more.map (fold c)).getD [], broken := true, column := column, rest := final }
  | none => { between := blanks, broken := false, column := 0, rest := rest }

/-- A plain scalar: its text, whether a line ends behind it, and what is left. On a later line it
has to stand at `indent` or further right, unless it is inside brackets. -/
def plain (inFlow : Bool) (indent : Nat) : (steps : Nat) → List Char → List Char × Bool × List Char
  | 0, s => ([], false, s)
  | steps + 1, s =>
    let (word, after) := plainWord inFlow s
    let g := gap after
    let done := g.between.isEmpty || g.rest.head? == some '#' ||
      (!inFlow && g.broken && g.column < indent) ||
      (plainWord inFlow g.rest).1.isEmpty
    if done then (word, g.broken, g.rest)
    else
      let (more, broken, final) := plain inFlow indent steps g.rest
      (word ++ g.between ++ more, broken, final)

/-! ## 4. Blocks -/

/-- What becomes of the line ends at the end of a block. -/
inductive Chomping where
  | clip
  | strip
  | keep
  deriving DecidableEq

/-- The introduction of a block: what it does with final line ends, and an indentation if it gives
one. -/
def blockHeader? (c : Cursor) : Option (Chomping × Option Nat × Cursor) :=
  let chomp? (ch : Option Char) : Option Chomping :=
    if ch == some '+' then some .keep else if ch == some '-' then some .strip else none
  let digit? (ch : Option Char) : Option Nat := (ch.filter Char.isDigit).map fun d => d.toNat - 48
  let (chomping, width, after) : Chomping × Option Nat × Cursor :=
    match chomp? (c.peek 0), digit? (c.peek 0) with
    | some k, _ =>
      match digit? (c.peek 1) with
      | some d => (k, some d, c.skip 2)
      | none => (k, none, c.skip 1)
    | none, some d =>
      match chomp? (c.peek 1) with
      | some k => (k, some d, c.skip 2)
      | none => (.clip, some d, c.skip 1)
    | none, none => (.clip, none, c)
  let blank := (after.peek 0).all fun ch => ch == ' ' || isBreak ch
  if width = some 0 || !blank then none
  else
    let spaced := after.skipBlanks
    let commented := if spaced.peek 0 == some '#' then spaced.skipLine else spaced
    match commented.lineEnd? with
    | some (_, final) => some (chomping, width, final)
    | none => if commented.rest.isEmpty then some (chomping, width, commented) else none

/-- The empty lines at the start of a block: their line ends, and the widest indentation seen. -/
def blockStart : (steps : Nat) → Cursor → List Char × Nat × Cursor
  | 0, c => ([], 0, c)
  | steps + 1, c =>
    let spaced := c.skipBlanks
    match spaced.lineEnd? with
    | some (ch, after) =>
      let (more, width, final) := blockStart steps after
      (ch :: more, max spaced.column width, final)
    | none => ([], spaced.column, spaced)

/-- The place behind blanks, as far as a column. -/
def skipIndent (indent : Nat) (c : Cursor) : Cursor :=
  c.skip (min (indent - c.column) (c.rest.takeWhile (· == ' ')).length)

/-- The empty lines within a block, and the place at the start of the next line's text. -/
def blockBreaks (indent : Nat) : (steps : Nat) → Cursor → List Char × Cursor
  | 0, c => ([], c)
  | steps + 1, c =>
    let spaced := skipIndent indent c
    match spaced.lineEnd? with
    | some (ch, after) =>
      let (more, final) := blockBreaks indent steps after
      (ch :: more, final)
    | none => ([], spaced)

/-- The lines of a block, its last line end, and the empty lines behind it. -/
def blockLines (folded : Bool) (indent : Nat) : (steps : Nat) → List Char → Cursor →
    List Char × List Char × List Char × Cursor
  | 0, breaks, c => ([], [], breaks, c)
  | steps + 1, breaks, c =>
    if c.column = indent ∧ ¬ c.rest.isEmpty then
      let line := c.rest.takeWhile fun ch => !isBreak ch
      let startsText := !(line.head?.any isBlank)
      let lineBreak := ((c.skipLine).lineEnd?).map fun (ch, after) => ([ch], after)
      let (broken, after) := lineBreak.getD ([], c.skipLine)
      let (more, next) := blockBreaks indent (after.rest.length + 1) after
      if next.column = indent ∧ ¬ next.rest.isEmpty then
        let textFollows := !((next.peek 0).any isBlank)
        let between :=
          if folded && broken == ['\n'] && startsText &&
            textFollows then (if more.isEmpty then [' '] else [])
          else broken
        let (others, final, trailing, stop) := blockLines folded indent steps more next
        (breaks ++ line ++ between ++ others, final, trailing, stop)
      else (breaks ++ line, broken, more, next)
    else ([], [], breaks, c)

/-- A block scalar, from behind the mark that introduces it; `indent` is the column of what holds
it. -/
def block? (folded : Bool) (indent : Int) (c : Cursor) : Option (List Char × Cursor) := do
  let (chomping, width, first) ← blockHeader? c
  let least := (max (indent + 1) 1).toNat
  let (column, breaks, content) :=
    match width with
    | some w =>
      let (breaks, next) := blockBreaks (least + w - 1) (first.rest.length + 1) first
      (least + w - 1, breaks, next)
    | none =>
      let (breaks, widest, next) := blockStart (first.rest.length + 1) first
      (max least widest, breaks, next)
  let (text, final, trailing, stop) :=
    blockLines folded column (content.rest.length + 1) breaks content
  let ending := match chomping with
    | .strip => []
    | .clip => final
    | .keep => final ++ trailing
  return (text ++ ending, stop)

end ApiStore.Yaml
