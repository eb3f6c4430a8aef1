import ApiStore.Number.Numeral
import ApiStore.Text.Case
import ApiStore.Text.Digit
import ApiStore.Value.Literal
/-
`Style.lean` -- the names of styles.

A style is named by words: attributes, which may be denied, a colour, a colour of the
background after `on`, and an address after `link`. Their order does not count, nor do
short names and capitals, so a style has a normal form in which two names of it can be
compared. Words that name no style are their own normal form, in small letters.
-/
set_option autoImplicit false

namespace ApiStore.Console

/-! ## 1. Words -/

/-- A text in small letters. -/
def small (s : String) : String :=
  String.ofList (s.toList.map fun c => Char.ofNat (Text.smallLetter c.toNat))

/-- A text without the blanks around it. -/
def trimmed (s : List Char) : List Char :=
  ((s.dropWhile Text.isBlank).reverse.dropWhile Text.isBlank).reverse

/-- The words of a text. -/
def wordsOf : List Char → List (List Char)
  | [] => []
  | c :: rest =>
    if Text.isBlank c then wordsOf rest
    else
      match rest, wordsOf rest with
      | next :: _, word :: others =>
        if Text.isBlank next then [c] :: word :: others else (c :: word) :: others
      | _, others => [c] :: others

/-! ## 2. Colours -/

/-- The names of colours. -/
def colorNames : List String :=
  ["black", "red", "green", "yellow", "blue", "magenta", "cyan", "white", "bright_black",
   "bright_red", "bright_green", "bright_yellow", "bright_blue", "bright_magenta", "bright_cyan",
   "bright_white", "grey0", "gray0", "navy_blue", "dark_blue", "blue3", "blue1", "dark_green",
   "deep_sky_blue4", "dodger_blue3", "dodger_blue2", "green4", "spring_green4", "turquoise4",
   "deep_sky_blue3", "dodger_blue1", "green3", "spring_green3", "dark_cyan", "light_sea_green",
   "deep_sky_blue2", "deep_sky_blue1", "spring_green2", "cyan3", "dark_turquoise", "turquoise2",
   "green1", "spring_green1", "medium_spring_green", "cyan2", "cyan1", "dark_red", "deep_pink4",
   "purple4", "purple3", "blue_violet", "orange4", "grey37", "gray37", "medium_purple4",
   "slate_blue3", "royal_blue1", "chartreuse4", "dark_sea_green4", "pale_turquoise4", "steel_blue",
   "steel_blue3", "cornflower_blue", "chartreuse3", "cadet_blue", "sky_blue3", "steel_blue1",
   "pale_green3", "sea_green3", "aquamarine3", "medium_turquoise", "chartreuse2", "sea_green2",
   "sea_green1", "aquamarine1", "dark_slate_gray2", "dark_magenta", "dark_violet", "purple",
   "light_pink4", "plum4", "medium_purple3", "slate_blue1", "yellow4", "wheat4", "grey53", "gray53",
   "light_slate_grey", "light_slate_gray", "medium_purple", "light_slate_blue", "dark_olive_green3",
   "dark_sea_green", "light_sky_blue3", "sky_blue2", "dark_sea_green3", "dark_slate_gray3",
   "sky_blue1", "chartreuse1", "light_green", "pale_green1", "dark_slate_gray1", "red3",
   "medium_violet_red", "magenta3", "dark_orange3", "indian_red", "hot_pink3", "medium_orchid3",
   "medium_orchid", "medium_purple2", "dark_goldenrod", "light_salmon3", "rosy_brown", "grey63",
   "gray63", "medium_purple1", "gold3", "dark_khaki", "navajo_white3", "grey69", "gray69",
   "light_steel_blue3", "light_steel_blue", "yellow3", "dark_sea_green2", "light_cyan3",
   "light_sky_blue1", "green_yellow", "dark_olive_green2", "dark_sea_green1", "pale_turquoise1",
   "deep_pink3", "magenta2", "hot_pink2", "orchid", "medium_orchid1", "orange3", "light_pink3",
   "pink3", "plum3", "violet", "light_goldenrod3", "tan", "misty_rose3", "thistle3", "plum2",
   "khaki3", "light_goldenrod2", "light_yellow3", "grey84", "gray84", "light_steel_blue1",
   "yellow2", "dark_olive_green1", "honeydew2", "light_cyan1", "red1", "deep_pink2", "deep_pink1",
   "magenta1", "orange_red1", "indian_red1", "hot_pink", "dark_orange", "salmon1", "light_coral",
   "pale_violet_red1", "orchid2", "orchid1", "orange1", "sandy_brown", "light_salmon1",
   "light_pink1", "pink1", "plum1", "gold1", "navajo_white1", "misty_rose1", "thistle1", "yellow1",
   "light_goldenrod1", "khaki1", "wheat1", "cornsilk1", "grey100", "gray100", "grey3", "gray3",
   "grey7", "gray7", "grey11", "gray11", "grey15", "gray15", "grey19", "gray19", "grey23", "gray23",
   "grey27", "gray27", "grey30", "gray30", "grey35", "gray35", "grey39", "gray39", "grey42",
   "gray42", "grey46", "gray46", "grey50", "gray50", "grey54", "gray54", "grey58", "gray58",
   "grey62", "gray62", "grey66", "gray66", "grey70", "gray70", "grey74", "gray74", "grey78",
   "gray78", "grey82", "gray82", "grey85", "gray85", "grey89", "gray89", "grey93", "gray93"]

/-- Why a name cannot be read: a part of a colour is no number. -/
structure BadNumber where
  text : String
  deriving DecidableEq, Repr

/-- The words for such a part. -/
def BadNumber.message (e : BadNumber) : String :=
  "invalid literal for int() with base 10: " ++ Text.quoted e.text

/-- What stands between parentheses behind a word, at the end of a text. -/
def within? (word : String) (s : List Char) : Option (List Char) :=
  if (word ++ "(").toList.isPrefixOf s && s.getLast? = some ')' then
    some ((s.drop (word.length + 1)).dropLast)
  else
    none

/-- The parts of a text between commas. -/
def commaParts : List Char → List (List Char)
  | [] => [[]]
  | ',' :: rest => [] :: commaParts rest
  | c :: rest =>
    match commaParts rest with
    | first :: others => (c :: first) :: others
    | [] => [[c]]

/-- Whether the parts of a colour are three numbers of a byte. A part that is no number is an error,
but only if there are three. -/
def isTriplet (s : List Char) : Except BadNumber Bool :=
  let parts := commaParts s
  if parts.length = 3 then do
    let numbers ← parts.mapM fun part =>
      match Numeral.integer? 10 part with
      | some n => Except.ok n
      | none => .error ⟨String.ofList part⟩
    return numbers.all (· ≤ 255)
  else .ok false

/-- Whether a word in small letters names a colour. -/
def isColor (word : String) : Except BadNumber Bool :=
  let s := word.toList
  match s, within? "color" s, within? "rgb" s with
  | '#' :: digits, _, _ =>
    .ok (digits.length == 6 && digits.all fun c => (Numeral.digitValue? c).isSome)
  | _, some digits, _ =>
    .ok (!digits.isEmpty && digits.length ≤ 3 && digits.all Char.isDigit &&
      Numeral.decimalNumber digits ≤ 255)
  | _, none, some parts =>
    if !parts.isEmpty && parts.all fun c => Text.isDecimalDigit c || c == ',' then isTriplet parts
    else .ok false
  | _, none, none => .ok (word == "default" || colorNames.contains word)

/-! ## 3. Styles -/

/-- The attributes in the order of the normal form. -/
def attributes : List String :=
  ["bold", "dim", "italic", "underline", "blink", "blink2", "reverse", "conceal", "strike",
   "underline2", "frame", "encircle", "overline"]

/-- Attributes that have a short name. -/
def shortNames : List (String × String) :=
  [("b", "bold"), ("d", "dim"), ("i", "italic"), ("u", "underline"), ("s", "strike"),
   ("r", "reverse"), ("c", "conceal"), ("o", "overline"), ("uu", "underline2")]

/-- The attribute of a word. -/
def attribute? (word : String) : Option String :=
  (shortNames.lookup word).or (if attributes.contains word then some word else none)

/-- A style. -/
structure Style where
  /-- The attributes that are named, and whether they hold. -/
  attributes : List (String × Bool)
  color : Option String
  background : Option String
  link : Option String

namespace Style

/-- The style that says nothing. -/
def blank : Style := { attributes := [], color := none, background := none, link := none }

/-- Sets an attribute; the last word on it counts. -/
def set (style : Style) (name : String) (holds : Bool) : Style :=
  { style with
    attributes := (name, holds) :: style.attributes.filter fun (other, _) => other != name }

/-- The style of words; nothing if they name none. -/
def ofWords (style : Style) : List String → Except BadNumber (Option Style)
  | [] => .ok (some style)
  | [word] => do
    match attribute? (small word) with
    | some name => return some (style.set name true)
    | none =>
      if ← isColor (small word) then return some { style with color := some (small word) }
      else return none
  | word :: next :: rest =>
    if small word = "on" then do
      if ← isColor (small next) then ofWords { style with background := some (small next) } rest
      else return none
    else if small word = "not" then
      match attribute? next with
      | some name => ofWords (style.set name false) rest
      | none => .ok none
    else if small word = "link" then ofWords { style with link := some next } rest
    else
      match attribute? (small word) with
      | some name => ofWords (style.set name true) (next :: rest)
      | none => do
        if ← isColor (small word) then
          ofWords { style with color := some (small word) } (next :: rest)
        else
          return none

/-- The normal form of a style. -/
def name (style : Style) : String :=
  let words := Console.attributes.filterMap fun a =>
    (style.attributes.lookup a).map fun holds => if holds then a else "not " ++ a
  let background := (style.background.map fun c => ["on", c]).getD []
  let link := (style.link.map fun l => ["link", l]).getD []
  let all := words ++ style.color.toList ++ background ++ link
  if all.isEmpty then "none" else " ".intercalate all

end Style

/-- The name of a style in its normal form, however it is written. -/
def styleName (s : List Char) : Except BadNumber String := do
  let words := (wordsOf s).map String.ofList
  if words = ["none"] then return "none"
  match ← Style.ofWords .blank words with
  | some style => return style.name
  | none => return small (String.ofList (trimmed s))

end ApiStore.Console
