import ApiStore.Fault
import ApiStore.Number.Numeral
import ApiStore.Yaml.Cursor
/-
`Directive.lean` -- tags and directives as they are written.

A tag is written in full between angle brackets, or as a handle and what follows it, or
as a single mark that says no more than that there is a tag. What a handle stands for is
said by a directive at the start of a text. The only other directive that matters gives
the version of the language.

**Escapes.** A tag is written in the characters of an address. Any other character is
given by the bytes of its UTF-8 form, each as a percent sign and two digits.
-/
set_option autoImplicit false

namespace ApiStore.Yaml

/-! ## 1. Characters -/

/-- Whether a character may stand in a name: of a directive, of a handle, of an anchor. -/
def isNameChar (c : Char) : Bool := c.isAlphanum || c == '-' || c == '_'

/-- Whether a character of a tag stands for itself. -/
def isAddressChar (c : Char) : Bool := c.isAlphanum || "-;/?:@&=+$,_.!~*'()[]".toList.contains c

/-- Whether a part of a line ends here: at a blank, a line end, or the end of the text. -/
def endsPart (c : Option Char) : Bool := c.all fun c => c == ' ' || isBreak c

/-- The bytes of the escapes at the start of a text, and what follows them. -/
def escapedBytes : List Char → Except Fault (List UInt8 × List Char)
  | '%' :: a :: b :: rest =>
    match Numeral.digitValue? a, Numeral.digitValue? b with
    | some high, some low => do
      let (more, final) ← escapedBytes rest
      return (UInt8.ofNat (high * 16 + low) :: more, final)
    | _, _ => .error .yaml
  | '%' :: _ => .error .yaml
  | rest => .ok ([], rest)

/-- Characters of a tag at the start of a text, and what follows them. -/
def addressChars : (steps : Nat) → List Char → Except Fault (List Char × List Char)
  | 0, s => .ok ([], s)
  | steps + 1, s =>
    match s with
    | [] => .ok ([], [])
    | c :: rest =>
      if c = '%' then do
        let (bytes, after) ← escapedBytes s
        let decoded ← (Text.decodeUtf8 bytes).mapError fun _ => Fault.yaml
        let (more, final) ← addressChars steps after
        return (decoded.toList ++ more, final)
      else if isAddressChar c then do
        let (more, final) ← addressChars steps rest
        return (c :: more, final)
      else .ok ([], s)

/-- The address at the start of a text, of at least one character, and what follows it. -/
def address (s : List Char) : Except Fault (String × List Char) := do
  let (chars, rest) ← addressChars (s.length + 1) s
  if chars.isEmpty then throw .yaml else return (String.ofList chars, rest)

/-! ## 2. Tags -/

/-- A tag as it is written: its handle, if it has one, and what follows the handle. -/
structure TagName where
  handle : Option String
  suffix : String
  deriving DecidableEq, Repr

/-- The handle at the start of a text, and what follows it: one mark, or two with a name or nothing
between them. A mark before a blank is a handle of its own. -/
def handle (s : List Char) : Except Fault (String × List Char) :=
  match s with
  | '!' :: ' ' :: rest => .ok ("!", ' ' :: rest)
  | '!' :: rest =>
    match rest.dropWhile isNameChar with
    | '!' :: after => .ok (String.ofList ('!' :: rest.takeWhile isNameChar ++ ['!']), after)
    | _ => .error .yaml
  | _ => .error .yaml

/-- A tag, passed from behind its first mark, and what follows it. The handle has a second mark if
there is another mark before the next blank. -/
def tagParts (s : List Char) : Except Fault (TagName × List Char) :=
  match s with
  | '<' :: rest => do
    let (full, after) ← address rest
    match after with
    | '>' :: final => return ({ handle := none, suffix := full }, final)
    | _ => throw .yaml
  | _ =>
    if endsWord s.head? then .ok ({ handle := none, suffix := "!" }, s)
    else do
      let named := (s.takeWhile fun c => !endsPart (some c)).contains '!'
      let (mark, after) ← if named then handle ('!' :: s) else pure ("!", s)
      let (rest, final) ← address after
      return ({ handle := some mark, suffix := rest }, final)

/-- A tag, passed from behind its first mark. It ends at a blank or with the line. -/
def TagName.read (s : List Char) : Except Fault (TagName × List Char) := do
  let (name, rest) ← tagParts s
  if endsPart rest.head? then return (name, rest) else throw .yaml

/-! ## 3. Directives -/

/-- A directive. Of a version only the first number counts. -/
inductive Directive where
  | version (major : Nat)
  | handle (name stem : String)
  | other
  deriving DecidableEq, Repr

namespace Directive

/-- A natural number at the start of a text, and what follows it. -/
def number (s : List Char) : Except Fault (Nat × List Char) :=
  let digits := s.takeWhile Char.isDigit
  if digits.isEmpty then .error .yaml
  else
    match Numeral.integer? 10 digits with
    | some n => .ok (n.toNat, s.dropWhile Char.isDigit)
    | none => .error .notNumeral

/-- The version of the language: two numbers with a point between them. -/
def readVersion (s : List Char) : Except Fault (Directive × List Char) := do
  let (major, afterMajor) ← number s
  match afterMajor with
  | '.' :: rest =>
    let (_, final) ← number rest
    if endsPart final.head? then return (.version major, final) else throw .yaml
  | _ => throw .yaml

/-- A handle, and what it stands for. -/
def readHandle (s : List Char) : Except Fault (Directive × List Char) := do
  let (name, afterName) ← Yaml.handle s
  if afterName.head? ≠ some ' ' then throw .yaml
  let (stem, final) ← address (afterName.dropWhile (· == ' '))
  if endsPart final.head? then return (.handle name stem, final) else throw .yaml

/-- What follows a line that holds nothing more than a comment. -/
def endLine (s : List Char) : Except Fault (List Char) :=
  let spaced := s.dropWhile (· == ' ')
  let rest := if spaced.head? = some '#' then spaced.dropWhile fun c => !isBreak c else spaced
  match lineEnd? rest with
  | some (_, after) => .ok after
  | none => if rest.isEmpty then .ok [] else .error .yaml

/-- A directive, passed from behind its mark, and the lines below it. -/
def read (s : List Char) : Except Fault (Directive × List Char) := do
  let name := String.ofList (s.takeWhile isNameChar)
  let afterName := s.dropWhile isNameChar
  if name.isEmpty || !endsPart afterName.head? then throw .yaml
  let argument := afterName.dropWhile (· == ' ')
  let (directive, rest) ←
    if name = "YAML" then readVersion argument
    else if name = "TAG" then readHandle argument
    else pure (.other, afterName.dropWhile fun c => !isBreak c)
  return (directive, ← endLine rest)

end Directive

end ApiStore.Yaml
