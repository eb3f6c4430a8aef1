import ApiStore.Console.Emoji.Table
import ApiStore.Text.Case
import ApiStore.Text.Digit
/-
`Emoji.lean` -- emoji by their codes.

A code is a name between two colons, without blanks. It may end in `-text` or `-emoji`,
which asks for the plain or for the coloured form, and capitals do not count. A name that
is not known stands for itself, colons included, and the second colon begins no other
code. For emoji that show people there are five tones of skin, named at the end.
-/
set_option autoImplicit false

namespace ApiStore.Console

/-! ## 1. Names -/

/-- An emoji with its name. -/
structure Emoji where
  name : String
  shown : List Char
  /-- Whether it comes in tones. -/
  toned : Bool

namespace Emoji

/-- The emoji of an entry of the table. -/
def ofEntry? (entry : String) : Option Emoji :=
  match entry.splitOn "=" with
  | [name, shown] =>
    match name.toList with
    | '*' :: rest => some { name := String.ofList rest, shown := shown.toList, toned := true }
    | _ => some { name := name, shown := shown.toList, toned := false }
  | _ => none

/-- All emoji. -/
def all : List Emoji := emojiLines.flatMap fun line => (line.splitOn ",").filterMap ofEntry?

/-- The tones of skin, and what they add to an emoji. -/
def tones : List (String × Char) :=
  [("_light_skin_tone", '🏻'), ("_medium-light_skin_tone", '🏼'), ("_medium_skin_tone", '🏽'),
   ("_medium-dark_skin_tone", '🏾'), ("_dark_skin_tone", '🏿')]

/-- The mark that asks for the coloured form. -/
def colored : Char := '\uFE0F'

/-- The mark that asks for the plain form. -/
def plain : Char := '\uFE0E'

/-- An emoji in a tone, which stands behind the first character and takes the place of a mark
there. -/
def inTone (tone : Char) (shown : List Char) : List Char :=
  match shown with
  | [] => []
  | c :: rest => c :: tone :: rest.dropWhile (· = colored)

/-- What stands before an ending of a text. -/
def before? (ending : String) (s : List Char) : Option (List Char) :=
  if ending.toList.isSuffixOf s then some (s.take (s.length - ending.length)) else none

/-- The emoji of a name. -/
def named? (name : List Char) : Option Emoji := all.find? fun e => e.name == String.ofList name

/-- What a name shows, its tone included. -/
def shown? (name : List Char) : Option (List Char) :=
  match named? name with
  | some e => some e.shown
  | none =>
    tones.findSome? fun (ending, tone) => do
      let e ← before? ending name >>= named?
      if e.toned then some (inTone tone e.shown) else none

/-- What a code shows, passed without its colons. -/
def ofCode? (code : List Char) : Option (List Char) :=
  let small := fun (s : List Char) => s.map fun c => Char.ofNat (Text.smallLetter c.toNat)
  match before? "-emoji" code, before? "-text" code with
  | some name, _ => (shown? (small name)).map (· ++ [colored])
  | none, some name => (shown? (small name)).map (· ++ [plain])
  | none, none => shown? (small code)

end Emoji

/-! ## 2. Codes in texts -/

/-- What stands before the next colon; nothing if there is a blank before it. -/
def uptoColon? : List Char → Option (List Char)
  | [] => none
  | c :: rest =>
    if c = ':' then some [] else if Text.isBlank c then none else (uptoColon? rest).map (c :: ·)

/-- A text with emoji for their codes. -/
def withEmoji (s : List Char) : List Char :=
  match s with
  | [] => []
  | c :: rest =>
    if c = ':' then
      match uptoColon? rest with
      | some code =>
        ((Emoji.ofCode? code).getD (':' :: code ++ [':'])) ++
          withEmoji (rest.drop (code.length + 1))
      | none => c :: withEmoji rest
    else c :: withEmoji rest
termination_by s.length

end ApiStore.Console
