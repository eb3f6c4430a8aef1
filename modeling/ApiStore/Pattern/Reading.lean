import ApiStore.Fault
import ApiStore.Number.Numeral
import ApiStore.Pattern
import ApiStore.Pattern.Token
import ApiStore.Text.CharacterName
import ApiStore.Text.Identifier
/-
`Reading.lean` -- reading regular expressions.

The reader takes the usual notation: alternatives, sets, named classes, groups with and
without names, repetitions of three kinds, anchors, references back, and conditions on
what lies ahead or behind or on what a group matched. Flags at the very start hold for
the whole pattern; those of a group hold inside it.

**What a pattern may say.** A reference goes to a group that is closed, and what lies
behind is looked for at a fixed distance only. The latter is not an offence at the place
where it is read, so it is noted there and reported when the whole notation is known to
be sound otherwise.

The recursion is bounded by a number of steps, of which the notation's length, taken
three times, is enough: every token is entered once as an alternative, once as a sequence
and once as a group.
-/
set_option autoImplicit false

namespace ApiStore.Pattern

/-! ## 1. The state of a reader -/

/-- Choices on how characters are compared and how the notation is read. -/
structure Flags where
  ignoreCase : Bool
  multiline : Bool
  dotAll : Bool
  verbose : Bool
  ascii : Bool
  deriving DecidableEq, Repr

/-- The choices of a pattern that makes none. -/
def Flags.none : Flags :=
  { ignoreCase := false, multiline := false, dotAll := false, verbose := false, ascii := false }

/-- Which letters count as the same. -/
def Flags.folding (f : Flags) : Folding :=
  if f.ignoreCase then (if f.ascii then .ascii else .all) else .nothing

/-- What is left of a notation, and what is known of the pattern so far. -/
structure Source where
  rest : List Token
  /-- The widths of the groups; none for a group that is open. -/
  widths : List (Option Width)
  names : List (String × Nat)
  /-- The number of groups when the reading of what lies behind began. -/
  outside : Option Nat
  /-- The groups that conditions ask for. -/
  asked : List Nat
  /-- Whether what lies behind is looked for at no fixed distance. -/
  uneven : Bool
  /-- Whether the pattern is declared to have no repetitions. -/
  template : Bool
  /-- Whether the pattern has repetitions. -/
  repeating : Bool
  /-- Whether the pattern is declared to be about all characters. -/
  universal : Bool

/-- Reads part of a notation. -/
abbrev Reading := StateT Source (Except Fault)

/-- Refuses the notation. -/
def refuse {α : Type} : Reading α := throw .pattern

/-- Goes on at a rest of the notation. -/
def goOn (rest : List Token) : Reading Unit := do
  if rest.head? = some .broken then refuse
  modify fun s => { s with rest := rest }

/-- The next token. -/
def peek : Reading (Option Token) := return (← get).rest.head?

/-- The next token, which is passed over. -/
def take : Reading (Option Token) := do
  match (← get).rest with
  | [] => return none
  | t :: rest =>
    goOn rest
    return some t

/-- Passes over a character if it is the next one. -/
def takeIf (c : Char) : Reading Bool := do
  match (← get).rest with
  | t :: rest =>
    if t.isPlain c then
      goOn rest
      return true
    else return false
  | [] => return false

/-- Passes over a character that has to be there. -/
def expect (c : Char) : Reading Unit := do if ← takeIf c then return else refuse

/-- Passes over all tokens up to a character, and over that; tells what was before it, and whether
it was there. -/
def passTo (stop : Char) : Reading (List Token × Bool) := do
  let rest := (← get).rest
  let before := rest.takeWhile fun t => !t.isPlain stop
  if before.contains .broken then refuse
  goOn (rest.drop (before.length + 1))
  return (before, before.length < rest.length)

/-- A name up to a character. -/
def nameTo (stop : Char) : Reading (List Char) := do
  let (before, found) ← passTo stop
  if before.isEmpty || !found then refuse
  return before.flatMap Token.toChars

/-- As many characters of a kind as there are, up to a number. -/
def takeRun (most : Nat) (test : Char → Bool) : Reading (List Char) := do
  let rest := (← get).rest
  let run := (rest.take most).takeWhile (·.plainAnd test)
  goOn (rest.drop run.length)
  return run.flatMap Token.toChars

/-! ## 2. Escapes -/

/-- The named class of a letter after a backslash. -/
def namedClass? (ascii : Bool) : Char → Option CharRange
  | 'd' => some (.named .digit ascii false)
  | 'D' => some (.named .digit ascii true)
  | 'w' => some (.named .word ascii false)
  | 'W' => some (.named .word ascii true)
  | 's' => some (.named .blank ascii false)
  | 'S' => some (.named .blank ascii true)
  | _ => none

/-- The anchor of a letter after a backslash. -/
def anchor? (ascii : Bool) : Char → Option Anchor
  | 'A' => some .textStart
  | 'Z' => some .textEnd
  | 'b' => some (.wordEdge ascii false)
  | 'B' => some (.wordEdge ascii true)
  | _ => none

/-- The control character of a letter after a backslash. -/
def control? : Char → Option Nat
  | 'a' => some 7
  | 'f' => some 12
  | 'n' => some 10
  | 'r' => some 13
  | 't' => some 9
  | 'v' => some 11
  | _ => none

/-- Whether a character is an octal digit. -/
def isOctal (c : Char) : Bool := '0' ≤ c && c ≤ '7'

/-- Whether a character is a hexadecimal digit. -/
def isHex (c : Char) : Bool := (Numeral.digitValue? c).isSome

/-- The number that digits denote in a base. -/
def numberOf (base : Nat) (digits : List Char) : Nat :=
  Numeral.ofDigits base (digits.filterMap (Numeral.digitIn? base))

/-- The code point of a number of hexadecimal digits. -/
def hexCode (count : Nat) : Reading Nat := do
  let digits ← takeRun count isHex
  if digits.length = count ∧ numberOf 16 digits < 0x110000 then return numberOf 16 digits
  else refuse

/-- The code point of a name in braces. -/
def namedCode : Reading Nat := do
  expect '\x7b'
  match Text.codeOfName? (← nameTo '\x7d') with
  | some code => return code
  | none => refuse

/-- The code point of three octal digits, of which the first is given. -/
def octalCode (digits : List Char) : Reading Nat :=
  if numberOf 8 digits ≤ 255 then return numberOf 8 digits else refuse

/-- The code point of a character after a backslash that is no digit. Letters without a meaning are
refused. -/
def escapedCode (e : Char) : Reading Nat :=
  match control? e, e with
  | some code, _ => return code
  | none, 'x' => hexCode 2
  | none, 'u' => hexCode 4
  | none, 'U' => hexCode 8
  | none, 'N' => namedCode
  | none, e => if e.isAlphanum then refuse else return e.toNat

/-- The member of a set after a backslash. -/
def setEscape (ascii : Bool) (e : Char) : Reading CharRange := do
  match namedClass? ascii e with
  | some cls => return cls
  | none =>
    if e = 'b' then return .one 8
    else if isOctal e then return .one (← octalCode (e :: (← takeRun 2 isOctal)))
    else return .one (← escapedCode e)

/-! ## 3. Sets -/

/-- The member of a set that starts with a token. -/
def setMember (ascii : Bool) : Token → Reading CharRange
  | .plain c => return .one (Text.code c)
  | .escaped e => setEscape ascii e
  | .broken => refuse

/-- The members of a set up to its closing bracket, which as the first member stands for itself;
`members` are those read so far, the last one first. -/
def setMembers (ascii : Bool) : (steps : Nat) → (members : List CharRange) →
    Reading (List CharRange)
  | 0, _ => refuse
  | steps + 1, members => do
    match ← take with
    | none => refuse
    | some t =>
      if t.isPlain ']' && !members.isEmpty then return members.reverse
      let low ← setMember ascii t
      if ← takeIf '-' then
        match ← take with
        | none => refuse
        | some t =>
          if t.isPlain ']' then return (CharRange.one '-'.toNat :: low :: members).reverse
          match low, ← setMember ascii t with
          | .one a, .one b =>
            if a ≤ b then setMembers ascii steps (.between a b :: members) else refuse
          | _, _ => refuse
      else setMembers ascii steps (low :: members)

/-- A set, from behind its opening bracket. -/
def charSet (flags : Flags) : Reading CharSet := do
  let negated ← takeIf '^'
  let members ← setMembers flags.ascii ((← get).rest.length + 1) []
  return CharSet.ofRanges flags.folding members negated

/-! ## 4. Repetitions -/

/-- How often something is repeated. -/
structure Bounds where
  least : Nat
  most : Option Nat

/-- Numbers of rounds are below this one. -/
def mostRounds : Nat := 4294967295

/-- A number of rounds. -/
def roundsOf (digits : List Char) : Except Fault Nat :=
  if Numeral.mostDigits < digits.length then .error .notNumeral
  else if mostRounds ≤ numberOf 10 digits then
    .error (.overflow "the repetition number is too large")
  else .ok (numberOf 10 digits)

/-- Bounds in braces, as they are written, and what follows; the notation is passed from behind the
opening brace. Braces around anything else stand for themselves. -/
def braces? (s : List Token) : Option (List Char × List Char × List Token) :=
  let digits (s : List Token) : List Token := s.takeWhile (·.plainAnd Char.isDigit)
  let least := digits s
  let text (ts : List Token) : List Char := ts.flatMap Token.toChars
  match s.drop least.length with
  | .plain '\x7d' :: rest => if least.isEmpty then none else some (text least, text least, rest)
  | .plain ',' :: more =>
    let most := digits more
    match more.drop most.length with
    | .plain '\x7d' :: rest => some (text least, text most, rest)
    | _ => none
  | _ => none

/-- The repetition that a character introduces, if it does. -/
def bounds? (c : Char) : Reading (Option Bounds) := do
  match c with
  | '*' => return some { least := 0, most := none }
  | '+' => return some { least := 1, most := none }
  | '?' => return some { least := 0, most := some 1 }
  | '\x7b' =>
    match braces? (← get).rest with
    | none => return none
    | some (low, high, rest) =>
      goOn rest
      let least ← if low.isEmpty then pure 0 else roundsOf low
      let most ← if high.isEmpty then pure none else some <$> roundsOf high
      if most.any (· < least) then refuse
      return some { least := least, most := most }
  | _ => return none

/-- Something that was read, and whether it can be repeated: positions and repetitions cannot. -/
structure Item where
  pattern : Pattern
  repeatable : Bool

/-- The last item, repeated. -/
def repetition (bounds : Bounds) (items : List Item) : Reading (List Item) := do
  match items with
  | [] => refuse
  | last :: before =>
    if !last.repeatable then refuse
    let eagerness ←
      if ← takeIf '?' then pure Eagerness.reluctant
      else if ← takeIf '+' then pure Eagerness.possessive
      else pure Eagerness.greedy
    modify fun s => { s with repeating := true }
    return { pattern := .repeated last.pattern bounds.least bounds.most eagerness,
             repeatable := false } :: before

/-! ## 5. Groups -/

/-- The width of a group that is closed. -/
def closedWidth? (s : Source) (number : Nat) : Option Width :=
  if number = 0 then none else (s.widths[number - 1]?).join

/-- The widths of groups; one that is open or missing has none. -/
def widthIn (s : Source) (number : Nat) : Width :=
  (closedWidth? s number).getD { least := 0, most := 0 }

/-- Checks a group that is referred to from within what lies behind: it has to be closed, and to be
outside. -/
def checkOutside (number : Nat) : Reading Unit := do
  let s ← get
  match s.outside with
  | none => return
  | some count => if (closedWidth? s number).isNone || count < number then refuse

/-- A reference back to a group. -/
def reference (flags : Flags) (number : Nat) : Reading Item := do
  if (closedWidth? (← get) number).isNone then refuse
  checkOutside number
  return { pattern := .sameAs number flags.folding, repeatable := true }

/-- The number of a group that has a name. -/
def groupNamed (name : List Char) : Reading Nat := do
  match (← get).names.lookup (String.ofList name) with
  | some number => return number
  | none => refuse

/-- The group that a condition asks for, by name or by number. -/
def askedGroup : Reading Nat := do
  let name ← nameTo ')'
  let number ←
    if Text.isIdentifier name then groupNamed name
    else
      match Numeral.integer? 10 name with
      | some (.ofNat n) =>
        if n = 0 ∨ 1073741823 ≤ n then refuse
        modify fun s => { s with asked := n :: s.asked }
        pure n
      | _ => refuse
  checkOutside number
  return number

/-- Opens a group. -/
def openGroup (name : Option (List Char)) : Reading Nat := do
  let s ← get
  let number := s.widths.length + 1
  match name with
  | none => set { s with widths := s.widths ++ [none] }
  | some n =>
    let word := String.ofList n
    if (s.names.lookup word).isSome then refuse
    set { s with widths := s.widths ++ [none], names := (word, number) :: s.names }
  return number

/-- Closes a group. -/
def closeGroup (number : Nat) (body : Pattern) : Reading Pattern := do
  modify fun s => { s with widths := s.widths.set (number - 1) (some (body.width (widthIn s))) }
  return .group number body

/-- The letters of flags. -/
def isFlag (c : Char) : Bool := ['a', 'i', 'L', 'm', 's', 't', 'u', 'x'].contains c

/-- Whether letters of flags can be given together: none is about bytes, and not both all characters
and ASCII alone are meant. -/
def areCompatible (letters : List Char) : Bool :=
  !letters.contains 'L' && !(letters.contains 'a' && letters.contains 'u')

/-- Flags with those of some letters, and without those of others. -/
def Flags.change (f : Flags) (more fewer : List Char) : Flags :=
  let now (c : Char) (before : Bool) : Bool := (before || more.contains c) && !fewer.contains c
  { ignoreCase := now 'i' f.ignoreCase, multiline := now 'm' f.multiline,
    dotAll := now 's' f.dotAll, verbose := now 'x' f.verbose,
    ascii := if more.contains 'a' then true else if more.contains 'u' then false else f.ascii }

/-- The flags of a group, from the first letter or sign on. -/
def groupFlags (flags : Flags) : Reading Flags := do
  let more ← takeRun (← get).rest.length isFlag
  let fewer ←
    if ← takeIf '-' then do
      let letters ← takeRun (← get).rest.length isFlag
      if letters.isEmpty then refuse else pure letters
    else if more.isEmpty then refuse
    else pure []
  expect ':'
  let bound := ['a', 'L', 'u', 't']
  if !areCompatible more || more.contains 't' || fewer.any bound.contains ||
    more.any fewer.contains then
    refuse
  return flags.change more fewer

/-! ## 6. Patterns -/

/-- A single item that has no parts. -/
def simpleItem (flags : Flags) (c : Char) : Item :=
  match c with
  | '^' =>
    { pattern := .anchor (if flags.multiline then .lineStart else .textStart), repeatable := false }
  | '$' =>
    { pattern := .anchor (if flags.multiline then .lineEnd else .lastLineEnd), repeatable := false }
  | '.' =>
    { pattern := .one (if flags.dotAll then .any else .single .nothing '\n'.toNat true),
      repeatable := true }
  | c => { pattern := .one (.single flags.folding (Text.code c) false), repeatable := true }

/-- The item after a backslash. A digit is a reference, unless it is zero or there are three octal
digits. -/
def escapedItem (flags : Flags) (e : Char) : Reading Item := do
  let character (code : Nat) : Item :=
    { pattern := .one (.single flags.folding code false), repeatable := true }
  match anchor? flags.ascii e, namedClass? flags.ascii e with
  | some condition, _ => return { pattern := .anchor condition, repeatable := false }
  | none, some cls =>
    return { pattern := .one (.ofRanges flags.folding [cls] false), repeatable := true }
  | none, none =>
    if e = '0' then return character (numberOf 8 (← takeRun 2 isOctal))
    else if e.isDigit then
      let more ← takeRun 1 Char.isDigit
      let third ← if isOctal e && more.any isOctal then takeRun 1 isOctal else pure []
      if third.isEmpty then reference flags (numberOf 10 (e :: more))
      else return character (← octalCode (e :: more ++ third))
    else return character (← escapedCode e)

/-- Items one after another, the last one first, as a pattern. -/
def inSequence (items : List Item) : Pattern :=
  match items with
  | [] => .nothing
  | last :: before => before.foldl (fun p item => .sequence item.pattern p) last.pattern

mutual

/-- Alternatives, up to a closing parenthesis or the end. -/
def readAlternatives (flags : Flags) : (steps : Nat) → Reading Pattern
  | 0 => refuse
  | steps + 1 => do
    let first ← readItems flags steps []
    if ← takeIf '|' then return .either first (← readAlternatives flags steps) else return first

/-- Items one after another, up to a bar, a closing parenthesis or the end; `before` are those read
so far, the last one first. In a verbose notation blanks and comments do not count. -/
def readItems (flags : Flags) : (steps : Nat) → (before : List Item) → Reading Pattern
  | 0, _ => refuse
  | steps + 1, before => do
    match ← peek with
    | none | some (.plain '|') | some (.plain ')') => return inSequence before
    | some .broken => refuse
    | some (.escaped e) =>
      let _ ← take
      readItems flags steps ((← escapedItem flags e) :: before)
    | some (.plain c) =>
      let _ ← take
      if flags.verbose && [' ', '\t', '\n', '\r', '\x0b', '\x0c'].contains c then
        readItems flags steps before
      else if flags.verbose && c == '#' then
        let _ ← passTo '\n'
        readItems flags steps before
      else if c = '[' then
        readItems flags steps ({ pattern := .one (← charSet flags), repeatable := true } :: before)
      else if c = '(' then readItems flags steps ((← readGroup flags steps).toList ++ before)
      else
        match ← bounds? c with
        | some bounds => readItems flags steps (← repetition bounds before)
        | none => readItems flags steps (simpleItem flags c :: before)

/-- A group, from behind its opening parenthesis; nothing if it is a comment. -/
def readGroup (flags : Flags) : (steps : Nat) → Reading (Option Item)
  | 0 => refuse
  | steps + 1 => do
    let whole (p : Pattern) : Option Item := some { pattern := p, repeatable := true }
    if ← takeIf '?' then
      match ← peek with
      | some (.plain c) =>
        if c = '-' || isFlag c then
          let body ← readAlternatives (← groupFlags flags) steps
          expect ')'
          return whole body
        let _ ← take
        match c with
        | '#' =>
          if (← passTo ')').2 then return none else refuse
        | 'P' =>
          if ← takeIf '<' then
            let name ← nameTo '>'
            if !Text.isIdentifier name then refuse
            let number ← openGroup (some name)
            let body ← readAlternatives flags steps
            expect ')'
            return whole (← closeGroup number body)
          else
            expect '='
            let name ← nameTo ')'
            if !Text.isIdentifier name then refuse
            return some (← reference flags (← groupNamed name))
        | ':' =>
          let body ← readAlternatives flags steps
          expect ')'
          return whole body
        | '>' =>
          let body ← readAlternatives flags steps
          expect ')'
          return whole (.committed body)
        | '=' | '!' =>
          let body ← readAlternatives flags steps
          expect ')'
          return whole (.ahead (c == '!') body)
        | '<' =>
          let negated ← takeIf '!'
          if !negated then expect '='
          let outside := (← get).outside
          modify fun s => { s with outside := some (s.outside.getD s.widths.length) }
          let body ← readAlternatives flags steps
          modify fun s => { s with outside := outside }
          expect ')'
          let s ← get
          let w := body.width (widthIn s)
          if w.least ≠ w.most || mostRounds < w.least then set { s with uneven := true }
          return whole (.behind w.least negated body)
        | '(' =>
          let number ← askedGroup
          let yes ← readItems flags steps []
          let no ← if ← takeIf '|' then readItems flags steps [] else pure .nothing
          expect ')'
          return whole (.ifMatched number yes no)
        | _ => refuse
      | _ => refuse
    else
      let number ← openGroup none
      let body ← readAlternatives flags steps
      expect ')'
      return whole (← closeGroup number body)

end

/-! ## 7. Whole notations -/

/-- The flags at the start of a notation, with comments among them, which hold for all of it. -/
def leadingFlags : (steps : Nat) → Flags → Reading Flags
  | 0, flags => return flags
  | steps + 1, flags => do
    match (← get).rest with
    | .plain '(' :: .plain '?' :: .plain '#' :: rest =>
      goOn rest
      if (← passTo ')').2 then leadingFlags steps flags else refuse
    | .plain '(' :: .plain '?' :: rest =>
      let letters := (rest.takeWhile (·.plainAnd isFlag)).flatMap Token.toChars
      match rest.drop letters.length with
      | .plain ')' :: after =>
        if letters.isEmpty || !areCompatible letters then refuse
        goOn after
        modify fun s =>
          { s with
            template := s.template || letters.contains 't'
            universal := s.universal || letters.contains 'u' }
        let changed := flags.change letters []
        leadingFlags steps { changed with ascii := flags.ascii || letters.contains 'a' }
      | _ => return flags
    | .plain c :: rest =>
      if flags.verbose && [' ', '\t', '\n', '\r', '\x0b', '\x0c'].contains c then
        goOn rest
        leadingFlags steps flags
      else if flags.verbose && c == '#' then
        let _ ← passTo '\n'
        leadingFlags steps flags
      else return flags
    | _ => return flags

/-- A whole notation. -/
def wholePattern : Reading Pattern := do
  let steps := 3 * (← get).rest.length + 3
  goOn (← get).rest
  let flags ← leadingFlags steps Flags.none
  let p ← readAlternatives flags steps
  let s ← get
  if flags.ascii && s.universal then throw .patternScope
  if !s.rest.isEmpty || s.asked.any (s.widths.length < ·) || (s.template && s.repeating) ||
    s.uneven then
    refuse
  return p

/-- The pattern that a notation denotes. -/
def read (source : String) : Except Fault Pattern :=
  let start : Source :=
    { rest := Token.ofChars source.toList, widths := [], names := [], outside := none,
      asked := [], uneven := false, template := false, repeating := false, universal := false }
  (wholePattern.run start).map (·.1)

end ApiStore.Pattern
