import ApiStore.Console.Emoji
import ApiStore.Console.Style
/-
`Markup.lean` -- texts with style tags.

What a command prints may carry tags in brackets, `[red]` to open a style and `[/red]`
to close it. A console without colours shows the text and drops the tags. Only a bracket
that a lower case letter or one of `#`, `/`, `@` follows begins a tag; any other bracket
is text. A backslash before a tag makes it text, and of backslashes before a tag every
two stand for one.

A text of unknown content is escaped before it is put between tags. Text that is not
escaped is read for tags like the rest, and a tag in it that closes nothing is an error.

In all that is text, emoji stand for their codes, each stretch of text between tags by
itself; a tag that a backslash has made text is a stretch of its own.
-/
set_option autoImplicit false

namespace ApiStore.Console

/-! ## 1. Errors -/

/-- Why a marked text cannot be shown. -/
inductive MarkupError where
  /-- A tag closes a style that is not open. -/
  | notOpen (tag : String) (position : Nat)
  /-- A tag closes the last style where none is open. -/
  | nothingOpen (position : Nat)
  /-- The name of a style cannot be read. -/
  | badNumber (e : BadNumber)
  deriving DecidableEq, Repr

/-- The words for an error. -/
def MarkupError.message : MarkupError → String
  | .notOpen tag position =>
    "closing tag '" ++ tag ++ "' at position " ++ natText position ++ " doesn't match any open tag"
  | .nothingOpen position =>
    "closing tag '[/]' at position " ++ natText position ++ " has nothing to close"
  | .badNumber e => e.message

/-! ## 2. Pieces -/

/-- A piece of a marked text. -/
inductive Piece where
  /-- Characters that belong together with those in the pieces next to them. -/
  | text (s : List Char)
  /-- A stretch of text by itself. -/
  | alone (s : List Char)
  /-- A tag, without its brackets, and where it stands. -/
  | tag (content : List Char) (position : Nat)

/-- Whether a tag can begin with a character. -/
def opensTag (c : Char) : Bool := ('a' ≤ c && c ≤ 'z') || c == '#' || c == '/' || c == '@'

/-- What stands before the next closing bracket; nothing if another bracket opens first. -/
def uptoBracket? : List Char → Option (List Char)
  | [] => none
  | ']' :: _ => some []
  | '[' :: _ => none
  | c :: rest => (uptoBracket? rest).map (c :: ·)

/-- The content of the tag whose opening bracket was just read. -/
def tagContent? : List Char → Option (List Char)
  | [] => none
  | c :: rest => if opensTag c then (uptoBracket? rest).map (c :: ·) else none

/-- A number of backslashes. -/
def backslashes (n : Nat) : List Char := List.replicate n '\\'

/-- The pieces of a text, from a position on: `skip` characters of it belong to a tag already read,
and `slashes` backslashes stand before it. -/
def piecesFrom (skip slashes position : Nat) : List Char → List Piece
  | [] => [.text (backslashes slashes)]
  | c :: rest =>
    match skip with
    | n + 1 => piecesFrom n 0 (position + 1) rest
    | 0 =>
      if c = '\\' then piecesFrom 0 (slashes + 1) (position + 1) rest
      else if c = '[' then
        match tagContent? rest with
        | some content =>
          .alone (backslashes (slashes / 2)) ::
            (if slashes % 2 = 1 then .alone ('[' :: content ++ [']']) else .tag content position) ::
            piecesFrom (content.length + 1) 0 (position + 1) rest
        -- a bracket that is text may have one backslash before it, which is dropped
        | none => .text (backslashes (slashes - 1) ++ ['[']) :: piecesFrom 0 0 (position + 1) rest
      else .text (backslashes slashes ++ [c]) :: piecesFrom 0 0 (position + 1) rest

/-- The pieces of a text. -/
def pieces (s : String) : List Piece := piecesFrom 0 0 0 s.toList

/-! ## 3. Showing -/

/-- The text that pieces show, the styles that are open being given, the last one first; `before` is
the stretch of text that the pieces follow. -/
def shown (styles : List String) (before : List Char) : List Piece → Except MarkupError (List Char)
  | [] => .ok (withEmoji before)
  | .text s :: rest => shown styles (before ++ s) rest
  | .alone s :: rest =>
    (shown styles [] rest).map fun more => withEmoji before ++ withEmoji s ++ more
  | .tag content position :: rest => do
    let left ← openAfter styles content position
    return withEmoji before ++ (← shown left [] rest)
where
  /-- The styles that are open behind a tag. -/
  openAfter (styles : List String) (content : List Char) (position : Nat) :
    Except MarkupError (List String) :=
    match content.takeWhile (· != '=') with
    | '/' :: name =>
      if (trimmed name).isEmpty then
        match styles with
        | [] => .error (.nothingOpen position)
        | _ :: others => .ok others
      else do
        let closed ← (styleName (trimmed name)).mapError .badNumber
        if styles.contains closed then return styles.erase closed
        else throw (.notOpen (String.ofList ('[' :: content ++ [']'])) position)
    | name => (styleName name).mapError MarkupError.badNumber |>.map (· :: styles)

/-! ## 4. Escaping -/

/-- A text with a backslash before each tag in it. -/
def escapedFrom (skip slashes : Nat) : List Char → List Char
  | [] => backslashes slashes
  | c :: rest =>
    match skip with
    | n + 1 => c :: escapedFrom n 0 rest
    | 0 =>
      if c = '\\' then escapedFrom 0 (slashes + 1) rest
      else if c = '[' then
        match tagContent? rest with
        | some content =>
          backslashes (2 * slashes + 1) ++ '[' :: escapedFrom (content.length + 1) 0 rest
        | none => backslashes slashes ++ '[' :: escapedFrom 0 0 rest
      else backslashes slashes ++ c :: escapedFrom 0 0 rest

/-- A text that is shown as it is between tags. One backslash at its end is doubled. -/
def escape (s : String) : String :=
  let escaped := escapedFrom 0 0 s.toList
  match escaped.reverse with
  | '\\' :: c :: _ => String.ofList (if c = '\\' then escaped else escaped ++ ['\\'])
  | ['\\'] => String.ofList (escaped ++ ['\\'])
  | _ => String.ofList escaped

/-! ## 5. Lines -/

/-- Bells, backspaces, vertical tabs, form feeds and carriage returns, which are not shown. -/
def isSilent (c : Char) : Bool := [7, 8, 11, 12, 13].contains c.toNat

/-- The text that a marked text shows. -/
def plainText (markup : String) : Except MarkupError (List Char) :=
  (shown [] [] (pieces markup)).map (List.filter fun c => !isSilent c)

end ApiStore.Console
