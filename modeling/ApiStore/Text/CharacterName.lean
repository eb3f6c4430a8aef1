import ApiStore.Number.Numeral
import ApiStore.Text.CharacterName.Table
/-
`CharacterName.lean` -- characters by their names.

Most names are in a table, where capitals do not count. Two large sets of characters have
names that are made by a rule, and there capitals do count: an ideograph is named by its
number, and a Hangul syllable by the sounds that it is made of, one from each of three
lists, of which the longest that fits is taken. Names of the blocks that the table leaves
out are not known.
-/
set_option autoImplicit false

namespace ApiStore.Text

/-! ## 1. Names in the table -/

namespace NameBlock

/-- The words of a text. -/
def words (s : String) : List String := if s.isEmpty then [] else s.splitOn " "

/-- The place of a name among entries, where `code` and `before` are the code and the words of the
next character and of the last one. -/
def codeAmong? (name : List String) (code : Nat) (before : List String) : List String → Option Nat
  | [] => none
  | entry :: rest =>
    match entry.toList with
    | '+' :: count => codeAmong? name (code + Numeral.decimalNumber count) before rest
    | shared :: others =>
      let here := before.take (Numeral.decimalNumber [shared]) ++ words (String.ofList others)
      if here = name then some code else codeAmong? name (code + 1) here rest
    | [] => none

/-- The code of a name in a block. -/
def code? (name : List String) (b : NameBlock) : Option Nat :=
  codeAmong? name b.first [] (b.lines.flatMap fun line => line.splitOn ",")

end NameBlock

/-- The code of a name in the table. -/
def codeInTable? (name : List Char) : Option Nat :=
  let capitals := String.ofList (name.map Char.toUpper)
  match furtherNames.find? fun (_, further) => further == capitals with
  | some (code, _) => some code
  | none => NameBlock.all.findSome? (NameBlock.code? (NameBlock.words capitals))

/-! ## 2. Ideographs -/

/-- What follows a beginning of a text. -/
def behind? (start : String) (s : List Char) : Option (List Char) :=
  if start.toList.isPrefixOf s then some (s.drop start.length) else none

/-- The codes of the unified ideographs. -/
def ideographRanges : Ranges :=
  [(0x3400, 0x4DBF), (0x4E00, 0x9FFF), (0x20000, 0x2A6DF), (0x2A700, 0x2B738), (0x2B740, 0x2B81D),
   (0x2B820, 0x2CEA1), (0x2CEB0, 0x2EBE0), (0x30000, 0x3134A)]

/-- The code of an ideograph, by the four or five digits at the end of its name. -/
def ideograph? (digits : List Char) : Option Nat := do
  let values ← digits.mapM Numeral.digitValue?
  let code := Numeral.ofDigits 16 values
  if (digits.length = 4 ∨ digits.length = 5) ∧ ideographRanges.contains code then some code
  else none

/-! ## 3. Hangul syllables -/

/-- The sounds that a syllable may begin with. -/
def leadingSounds : List String :=
  ["G", "GG", "N", "D", "DD", "R", "M", "B", "BB", "S", "SS", "", "J", "JJ", "C", "K", "T", "P",
   "H"]

/-- The vowels of syllables. -/
def vowelSounds : List String :=
  ["A", "AE", "YA", "YAE", "EO", "E", "YEO", "YE", "O", "WA", "WAE", "OE", "YO", "U", "WEO", "WE",
   "WI", "YU", "EU", "YI", "I"]

/-- The sounds that a syllable may end with. -/
def trailingSounds : List String :=
  ["", "G", "GG", "GS", "N", "NJ", "NH", "D", "L", "LG", "LM", "LB", "LS", "LT", "LP", "LH", "M",
   "B", "BS", "S", "SS", "NG", "J", "C", "K", "T", "P", "H"]

/-- The longest sound of a list that a text starts with: its place in the list, and what follows
it. -/
def sound? (sounds : List String) (s : List Char) : Option (Nat × List Char) :=
  let fitting := sounds.zipIdx.filterMap fun (sound, i) => (behind? sound s).map fun rest =>
    (i, rest)
  fitting.foldl
    (fun best (i, rest) =>
      match best with
      | some (_, kept) => if rest.length < kept.length then some (i, rest) else best
      | none => some (i, rest))
    none

/-- The code of a syllable, by the sounds in its name. -/
def syllable? (name : List Char) : Option Nat := do
  let (leading, afterLeading) ← sound? leadingSounds name
  let (vowel, afterVowel) ← sound? vowelSounds afterLeading
  let (trailing, rest) ← sound? trailingSounds afterVowel
  if rest.isEmpty then
    some (0xAC00 + (leading * vowelSounds.length + vowel) * trailingSounds.length + trailing)
  else none

/-! ## 4. All names -/

/-- The code of the character that has a name. -/
def codeOfName? (name : List Char) : Option Nat :=
  match behind? "HANGUL SYLLABLE " name, behind? "CJK UNIFIED IDEOGRAPH-" name with
  | some sounds, _ => syllable? sounds
  | none, some digits => ideograph? digits
  | none, none => codeInTable? name

end ApiStore.Text
