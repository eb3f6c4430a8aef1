import ApiStore.Yaml.Directive
import ApiStore.Yaml.Scalar
/-
`Token.lean` -- the tokens of a YAML text.

Brackets, marks and scalars are tokens that stand in the text. The structure of blocks
is in the indentation, and becomes tokens too: where a block is opened by an entry or a
key further right than what holds it, and where it is closed by a line further left.

**Keys are known late.** Whether a scalar is a key shows only at the colon behind it. So
a token that may turn out to be a key is remembered with its place, one for each level of
brackets, and at the colon the marks of a key, and of a block that it opens, are put in
before it. Such a key has to be on one line, and no longer than 1024 characters. A scalar
that starts a line of a block must turn out to be a key; if it does not, the text is not
YAML.

**A fault is not the end of all.** Whoever reads the tokens may find something wrong with
those in front of a fault before the fault is come to. So the tokens of a faulty text are
those that are certain when the fault is met: in front of the first one that may still turn
out to be a key.
-/
set_option autoImplicit false

namespace ApiStore.Yaml

/-! ## 1. Tokens -/

/-- A token. -/
inductive Token where
  | directive (d : Directive)
  | documentStart
  | documentEnd
  | blockList
  | blockMap
  | blockEnd
  | openList
  | closeList
  | openMap
  | closeMap
  | listEntry
  | flowEntry
  | key
  | value
  | anchor (name : String)
  | aliasName (name : String)
  | tag (name : TagName)
  | scalar (plain : Bool) (text : String)
  deriving DecidableEq, Repr

/-- A token that may turn out to be a key: its number and its place. -/
structure KeyPlace where
  number : Nat
  required : Bool
  line : Nat
  column : Nat
  index : Nat

/-- The state of a reader of tokens. -/
structure Lexer where
  cursor : Cursor
  /-- The tokens so far, the last one first. -/
  tokens : List Token
  /-- The number of open brackets. -/
  level : Nat
  /-- The column of the innermost block; `-1` outside all blocks. -/
  indent : Int
  /-- The columns of the blocks around it. -/
  outer : List Int
  /-- Whether a key may start here. -/
  keyAllowed : Bool
  /-- The tokens that may turn out to be keys, by the level of brackets. -/
  keys : List (Nat × KeyPlace)

namespace Lexer

/-- The state at the start of a text. -/
def start (text : List Char) : Lexer :=
  { cursor := .start text, tokens := [], level := 0, indent := -1, outer := [],
    keyAllowed := true, keys := [] }

/-! ## 2. Blocks and keys -/

/-- Appends a token. -/
def emit (l : Lexer) (t : Token) : Lexer := { l with tokens := t :: l.tokens }

/-- Appends a token that takes some characters. -/
def take (l : Lexer) (count : Nat) (t : Token) : Lexer :=
  { l.emit t with cursor := l.cursor.skip count }

/-- Puts a token in before the token of a number. -/
def emitBefore (l : Lexer) (number : Nat) (t : Token) : Lexer :=
  { l with tokens := l.tokens.insertIdx (l.tokens.length - number) t }

/-- Closes the blocks that are further right than a column. Within brackets there are none. -/
def closeBlocks (l : Lexer) (column : Int) : Lexer :=
  if l.level ≠ 0 then l
  else
    let rec close (indent : Int) (tokens : List Token) : List Int → Lexer
      | [] => { l with indent := indent, outer := [], tokens := tokens }
      | next :: more =>
        if column < indent then close next (.blockEnd :: tokens) more
        else { l with indent := indent, outer := next :: more, tokens := tokens }
    close l.indent l.tokens l.outer

/-- Opens a block at a column, unless one is open there. -/
def openBlock (l : Lexer) (column : Nat) (place : Lexer → Lexer) : Lexer :=
  if l.indent < column then place { l with outer := l.indent :: l.outer, indent := column } else l

/-- The token that may be a key at the current level of brackets. -/
def pending (l : Lexer) : Option KeyPlace := l.keys.lookup l.level

/-- Forgets the token that may be a key at the current level; one that must be a key cannot be. -/
def forgetKey (l : Lexer) : Except Fault Lexer :=
  if (l.pending).any (·.required) then .error .yaml
  else .ok { l with keys := l.keys.filter fun (level, _) => level != l.level }

/-- Remembers that the next token may be a key. -/
def rememberKey (l : Lexer) : Except Fault Lexer :=
  if l.keyAllowed then do
    let free ← l.forgetKey
    let place : KeyPlace :=
      { number := l.tokens.length, required := l.level == 0 && l.indent == (l.cursor.column : Int),
        line := l.cursor.line, column := l.cursor.column, index := l.cursor.index }
    return { free with keys := (l.level, place) :: free.keys }
  else .ok l

/-- Whether a token is too far behind to be a key. -/
def isStale (l : Lexer) (k : KeyPlace) : Bool :=
  k.line != l.cursor.line || 1024 < l.cursor.index - k.index

/-- Forgets tokens that are too far behind to be keys. -/
def forgetStale (l : Lexer) : Except Fault Lexer :=
  if l.keys.any fun (_, k) => l.isStale k && k.required then .error .yaml
  else .ok { l with keys := l.keys.filter fun (_, k) => !l.isStale k }

/-- The tokens so far that are certain: those in front of the first one that may be a key. -/
def certain (l : Lexer) : List Token :=
  let numbers := (l.keys.filter fun (_, k) => !l.isStale k).map fun (_, k) => k.number
  l.tokens.reverse.take (numbers.min?.getD l.tokens.length)

/-! ## 3. Between tokens -/

/-- The state behind blanks, comments and line ends. Outside brackets a key may start on a new
line. -/
def skipSpace (l : Lexer) : (steps : Nat) → Lexer
  | 0 => l
  | steps + 1 =>
    let marked :=
      if l.cursor.index = 0 ∧ l.cursor.peek 0 = some '\uFEFF' then l.cursor.next else l.cursor
    let spaced := marked.skipBlanks
    let commented := if spaced.peek 0 == some '#' then spaced.skipLine else spaced
    match commented.lineEnd? with
    | some (_, after) =>
      skipSpace { l with cursor := after, keyAllowed := l.keyAllowed || l.level == 0 } steps
    | none => { l with cursor := commented }

/-! ## 4. Single tokens -/

/-- A mark that starts or ends a document. -/
def documentMark (l : Lexer) (t : Token) : Except Fault Lexer := do
  let free ← (l.closeBlocks (-1)).forgetKey
  return { free.take 3 t with keyAllowed := false }

/-- A directive. -/
def directive (l : Lexer) : Except Fault Lexer := do
  let free ← (l.closeBlocks (-1)).forgetKey
  let (d, rest) ← Directive.read (l.cursor.rest.drop 1)
  return { free.emit (.directive d) with cursor := l.cursor.skipTo rest, keyAllowed := false }

/-- An opening bracket. -/
def openBracket (l : Lexer) (t : Token) : Except Fault Lexer := do
  let kept ← l.rememberKey
  return { kept.take 1 t with level := l.level + 1, keyAllowed := true }

/-- A closing bracket. -/
def closeBracket (l : Lexer) (t : Token) : Except Fault Lexer := do
  let free ← l.forgetKey
  return { free.take 1 t with level := l.level - 1, keyAllowed := false }

/-- A comma within brackets. -/
def comma (l : Lexer) : Except Fault Lexer := do
  let free ← l.forgetKey
  return { free.take 1 .flowEntry with keyAllowed := true }

/-- An entry of a list in a block. -/
def entryMark (l : Lexer) : Except Fault Lexer :=
  if l.level = 0 ∧ ¬ l.keyAllowed then .error .yaml
  else do
    let opened := if l.level = 0 then l.openBlock l.cursor.column (·.emit .blockList) else l
    let free ← opened.forgetKey
    return { free.take 1 .listEntry with keyAllowed := true }

/-- The mark of a key. -/
def keyMark (l : Lexer) : Except Fault Lexer :=
  if l.level = 0 ∧ ¬ l.keyAllowed then .error .yaml
  else do
    let opened := if l.level = 0 then l.openBlock l.cursor.column (·.emit .blockMap) else l
    let free ← opened.forgetKey
    return { free.take 1 .key with keyAllowed := l.level == 0 }

/-- The colon before a value. What may be a key before it is one. -/
def colon (l : Lexer) : Except Fault Lexer :=
  match l.pending with
  | some k =>
    let free := { l with keys := l.keys.filter fun (level, _) => level != l.level }
    let marked := free.emitBefore k.number .key
    let opened := if l.level = 0 then marked.openBlock k.column
      (·.emitBefore k.number .blockMap) else marked
    .ok { opened.take 1 .value with keyAllowed := false }
  | none =>
    if l.level = 0 ∧ ¬ l.keyAllowed then .error .yaml
    else
      let opened := if l.level = 0 then l.openBlock l.cursor.column (·.emit .blockMap) else l
      .ok { opened.take 1 .value with keyAllowed := l.level == 0 }

/-- A scalar that may be a key. -/
def scalarToken (l : Lexer) (plain : Bool) (text rest : List Char) (keyAllowed : Bool) :
    Except Fault Lexer := do
  let kept ← l.rememberKey
  return { kept.emit (.scalar plain (String.ofList text)) with
    cursor := l.cursor.skipTo rest, keyAllowed := keyAllowed }

/-- A block scalar. -/
def blockScalar (l : Lexer) (folded : Bool) : Except Fault Lexer := do
  let free ← { l with keyAllowed := true }.forgetKey
  let (text, after) ← wanted (block? folded l.indent l.cursor.next)
  return { free.emit (.scalar false (String.ofList text)) with cursor := after }

/-- An anchor or an alias. -/
def named (l : Lexer) (token : String → Token) : Except Fault Lexer := do
  let kept ← l.rememberKey
  let body := l.cursor.rest.drop 1
  let name := body.takeWhile isNameChar
  let after := (body.drop name.length).head?
  if name.isEmpty || !(endsWord after ||
    after.any ['?', ':', ',', ']', '\x7d', '%', '@', '\x60'].contains) then
    throw .yaml
  else return { kept.take (name.length + 1) (token (String.ofList name)) with keyAllowed := false }

/-- A tag. -/
def tagToken (l : Lexer) : Except Fault Lexer := do
  let kept ← l.rememberKey
  let (name, rest) ← TagName.read (l.cursor.rest.drop 1)
  return { kept.emit (.tag name) with cursor := l.cursor.skipTo rest, keyAllowed := false }

/-! ## 5. All tokens -/

/-- Whether a plain scalar can start here. -/
def startsPlain (l : Lexer) (c : Char) : Bool :=
  let special := "-?:,[]\x7b\x7d#&*!|>'\"%@\x60".toList.contains c
  (!special && !isBlank c && !isBreak c) ||
    (!endsWord (l.cursor.peek 1) && (c == '-' || (l.level == 0 && (c == '?' || c == ':'))))

/-- The next token, which starts with a given character. -/
def token (l : Lexer) (c : Char) : Except Fault Lexer :=
  let rest := l.cursor.rest
  let wordEnds := endsWord (l.cursor.peek 1)
  let inFlow := l.level != 0
  if c = '%' ∧ l.cursor.column = 0 then l.directive
  else if l.cursor.column = 0 ∧ c = '-' ∧ atDocumentMark rest then l.documentMark .documentStart
  else if l.cursor.column = 0 ∧ c = '.' ∧ atDocumentMark rest then l.documentMark .documentEnd
  else if c = '[' then l.openBracket .openList
  else if c = '\x7b' then l.openBracket .openMap
  else if c = ']' then l.closeBracket .closeList
  else if c = '\x7d' then l.closeBracket .closeMap
  else if c = ',' then l.comma
  else if c = '-' ∧ wordEnds then l.entryMark
  else if c = '?' ∧ (inFlow ∨ wordEnds) then l.keyMark
  else if c = ':' ∧ (inFlow ∨ wordEnds) then l.colon
  else if c = '*' then l.named .aliasName
  else if c = '&' then l.named .anchor
  else if c = '!' then l.tagToken
  else if c = '|' ∧ ¬ inFlow then l.blockScalar false
  else if c = '>' ∧ ¬ inFlow then l.blockScalar true
  else if c = '\'' ∨ c = '"' then do
    let (text, after) ← quoted c (rest.length + 1) (rest.drop 1)
    l.scalarToken false text after false
  else if l.startsPlain c then
    let (text, broken, after) := plain inFlow (l.indent + 1).toNat (rest.length + 1) rest
    l.scalarToken true text after broken
  else .error .yaml

end Lexer

/-- The tokens of a text as far as they are certain, and the fault that ends them, if one does. -/
structure Tokens where
  all : List Token
  ending : Option Fault

namespace Lexer

/-- The state behind the next token; nothing at the end of the text. -/
def advance (l : Lexer) : Except Fault (Option Lexer) := do
  let fresh ← (l.skipSpace (l.cursor.rest.length + 1)).forgetStale
  let closed := fresh.closeBlocks fresh.cursor.column
  match closed.cursor.peek 0 with
  | none => return none
  | some c => return some (← closed.token c)

/-- The state at the end of the text, where all blocks are closed. -/
def finish (l : Lexer) : Except Fault Lexer := do
  let fresh ← (l.skipSpace (l.cursor.rest.length + 1)).forgetStale
  (fresh.closeBlocks (-1)).forgetKey

/-- Reads tokens to the end of the text. -/
def run (l : Lexer) : (steps : Nat) → Tokens
  | 0 => { all := l.certain, ending := some .yaml }
  | steps + 1 =>
    match l.advance with
    | .ok (some next) => next.run steps
    | .ok none =>
      match l.finish with
      | .ok final => { all := final.tokens.reverse, ending := none }
      | .error f => { all := l.certain, ending := some f }
    | .error f => { all := l.certain, ending := some f }

end Lexer

/-- The tokens of a text. A text with characters that may not stand in it has none. -/
def Token.scan (text : List Char) : Tokens :=
  if text.all isAllowed then (Lexer.start text).run (text.length + 1)
  else { all := [], ending := some .yaml }

end ApiStore.Yaml
