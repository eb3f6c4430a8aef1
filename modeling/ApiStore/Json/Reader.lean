import ApiStore.Number.Numeral
import ApiStore.Text.Decoding
import ApiStore.Value
/-
`Reader.lean` -- reading JSON text.

The reader accepts JSON, with NaN and the infinities as further numbers, and nothing
else; a table keeps the first place and the last value of a key that is given twice. An
integer of too many digits is refused as if it were no JSON, and so is a list or a table
inside too many others. A text that is refused is refused at its first offence, and the
report names the offence, its line and column, and its distance from the start in
characters.

**Why it ends.** Every step returns what is left of the text together with the proof
that this is shorter than what it was given, so the recursion is on the length of the
text and no step count is passed around. A failed step returns the rest at which it
failed, and the position is that rest's distance from the end, taken once, at the top.
-/
set_option autoImplicit false

namespace ApiStore.Json

/-! ## 1. Offences -/

/-- What can be wrong with a JSON text. -/
inductive Offence where
  | valueExpected
  | nameExpected
  | colonExpected
  | commaExpected
  | textAfterEnd
  | unterminatedText
  | controlInText
  | unknownEscape
  | brokenCodeEscape
  | byteOrderMark
  | oversizedNumber
  | nestedTooDeeply
  deriving DecidableEq, Repr

/-- The words for an offence. -/
def Offence.message : Offence → String
  | .valueExpected => "Expecting value"
  | .nameExpected => "Expecting property name enclosed in double quotes"
  | .colonExpected => "Expecting ':' delimiter"
  | .commaExpected => "Expecting ',' delimiter"
  | .textAfterEnd => "Extra data"
  | .unterminatedText => "Unterminated string starting at"
  | .controlInText => "Invalid control character at"
  | .unknownEscape => "Invalid \\escape"
  | .brokenCodeEscape => "Invalid \\uXXXX escape"
  | .byteOrderMark => "Unexpected UTF-8 BOM (decode using utf-8-sig)"
  | .oversizedNumber => "Exceeds the limit for integer string conversion"
  | .nestedTooDeeply => "Exceeds the limit for nesting"

/-- An offence and where it is: line and column from one, offset from zero. -/
structure ReadError where
  offence : Offence
  line : Nat
  column : Nat
  offset : Nat
  deriving DecidableEq, Repr

/-- The report of a refused text. -/
def ReadError.message (e : ReadError) : String :=
  e.offence.message ++ ": line " ++ natText e.line ++ " column " ++ natText e.column ++
    " (char " ++ natText e.offset ++ ")"

/-- An offence, and the rest of the text from where it was found. -/
structure Stop where
  offence : Offence
  rest : List Char

/-- The error at an offset of a text. -/
def ReadError.at (offence : Offence) (text : List Char) (offset : Nat) : ReadError :=
  let before := text.take offset
  { offence := offence, line := before.count '\n' + 1,
    column := (before.reverse.takeWhile (· != '\n')).length + 1, offset := offset }

/-! ## 2. Steps -/

/-- What is left of a text after something was read from it. -/
abbrev Shorter (s : List Char) := { r : List Char // r.length < s.length }

/-- The four characters that may stand between tokens. -/
def isBlank (c : Char) : Bool := c == ' ' || c == '\t' || c == '\n' || c == '\r'

/-- The text from its first character that is not blank. -/
def skipBlank (s : List Char) : { r : List Char // r.length ≤ s.length } :=
  ⟨s.dropWhile isBlank, (List.dropWhile_sublist _).length_le⟩

/-- What follows a sign at the start of a text. -/
def afterSign? (sign : Char) (s : List Char) : Option (Shorter s) :=
  match s with
  | c :: rest => if c = sign then some ⟨rest, by simp only [List.length_cons]; omega⟩ else none
  | [] => none

/-! ## 3. Texts -/

/-- The value of a hexadecimal digit. -/
def hexValue? (c : Char) : Option Nat :=
  if '0' ≤ c ∧ c ≤ '9' then some (c.toNat - 48)
  else if 'a' ≤ c ∧ c ≤ 'f' then some (c.toNat - 87)
  else if 'A' ≤ c ∧ c ≤ 'F' then some (c.toNat - 55)
  else none

/-- The UTF-16 unit that four hexadecimal digits denote. A fifth character has to follow them, since
a text cannot end here. -/
def unit? (s : List Char) : Option (Nat × Shorter s) :=
  match s with
  | a :: b :: c :: d :: e :: rest => do
    let p ← hexValue? a
    let q ← hexValue? b
    let r ← hexValue? c
    let t ← hexValue? d
    some (((p * 16 + q) * 16 + r) * 16 + t, ⟨e :: rest, by simp only [List.length_cons]; omega⟩)
  | _ => none

/-- The character that follows a backslash and `u`, from one unit or from a pair of two. The rest
that is passed starts after the `u`. -/
def codeEscape (s : List Char) : Except Stop (Char × Shorter s) :=
  match unit? s with
  | none => .error ⟨.brokenCodeEscape, 'u' :: s⟩
  | some (high, ⟨rest, hr⟩) =>
    if Text.isHighHalf high && 6 < rest.length then
      match rest, hr with
      | '\\' :: 'u' :: more, hr =>
        match unit? more with
        | none => .error ⟨.brokenCodeEscape, 'u' :: more⟩
        | some (low, ⟨after, ha⟩) =>
          if Text.isLowHalf low then
            .ok (Text.charOfPair high low,
              ⟨after, by simp only [List.length_cons] at hr; omega⟩)
          else .ok (Text.charOfUnit high, ⟨'\\' :: 'u' :: more, hr⟩)
      | rest, hr => .ok (Text.charOfUnit high, ⟨rest, hr⟩)
    else .ok (Text.charOfUnit high, ⟨rest, hr⟩)

/-- The characters that a backslash and one letter stand for. -/
def simpleEscape? (c : Char) : Option Char :=
  match c with
  | '"' => some '"'
  | '\\' => some '\\'
  | '/' => some '/'
  | 'b' => some '\x08'
  | 'f' => some '\x0c'
  | 'n' => some '\n'
  | 'r' => some '\r'
  | 't' => some '\t'
  | _ => none

/-- The characters of a text up to its closing quotation mark; `opening` is the rest that
starts with the opening one, to which a missing end is reported. -/
def textBody (opening : List Char) (s : List Char) : Except Stop (List Char × Shorter s) :=
  match s with
  | [] => .error ⟨.unterminatedText, opening⟩
  | '"' :: rest => .ok ([], ⟨rest, by simp⟩)
  | ['\\'] => .error ⟨.unterminatedText, opening⟩
  | '\\' :: 'u' :: rest => do
    let (c, ⟨after, ha⟩) ← codeEscape rest
    let (more, ⟨final, hf⟩) ← textBody opening after
    .ok (c :: more, ⟨final, by simp only [List.length_cons]; omega⟩)
  | '\\' :: e :: rest =>
    match simpleEscape? e with
    | none => .error ⟨.unknownEscape, '\\' :: e :: rest⟩
    | some c => do
      let (more, ⟨final, hf⟩) ← textBody opening rest
      .ok (c :: more, ⟨final, by simp only [List.length_cons]; omega⟩)
  | c :: rest =>
    if c.toNat < 32 then .error ⟨.controlInText, c :: rest⟩
    else do
      let (more, ⟨final, hf⟩) ← textBody opening rest
      .ok (c :: more, ⟨final, by simp only [List.length_cons]; omega⟩)
termination_by s.length
decreasing_by all_goals simp_wf; try omega

/-! ## 4. Numbers -/

/-- Whether a character is an ASCII digit. -/
def isDigit (c : Char) : Bool := '0' ≤ c && c ≤ '9'

/-- The number that digits denote. -/
def digitsValue (digits : List Char) : Nat := digits.foldl (fun n c => n * 10 + (c.toNat - 48)) 0

/-- Digits, and what follows them. -/
def spanDigits (s : List Char) : List Char × List Char := (s.takeWhile isDigit, s.dropWhile isDigit)

/-- Digits after a point; a point without digits is not part of the number. -/
def fraction (s : List Char) : List Char × List Char :=
  match s with
  | '.' :: rest => if (spanDigits rest).1.isEmpty then ([], s) else spanDigits rest
  | _ => ([], s)

/-- An exponent, if a whole one is there. -/
def exponent? (s : List Char) : Option Int × List Char :=
  match s with
  | e :: rest =>
    if e = 'e' ∨ e = 'E' then
      let (neg, body) := match rest with
        | '-' :: r => (true, r)
        | '+' :: r => (false, r)
        | r => (false, r)
      let (digits, after) := spanDigits body
      if digits.isEmpty then (none, s)
      else
        let size : Int := digitsValue digits
        (some (if neg then -size else size), after)
    else (none, s)
  | [] => (none, s)

/-- A number: an integer, unless a fraction or an exponent makes it a double. A leading zero is a
whole number by itself. -/
def number? (s : List Char) : Option (Scalar × List Char) :=
  let (neg, body) := match s with
    | '-' :: r => (true, r)
    | r => (false, r)
  let whole := match body with
    | '0' :: r => some (['0'], r)
    | r => if (spanDigits r).1.isEmpty then none else some (spanDigits r)
  whole.map fun (digits, afterWhole) =>
    let (decimals, afterFraction) := fraction afterWhole
    let (power, rest) := exponent? afterFraction
    if decimals.isEmpty && power.isNone then
      let n : Int := digitsValue digits
      (.int (if neg then -n else n), rest)
    else
      (.double (.ofDecimal neg (digitsValue (digits ++ decimals)) (power.getD 0 - decimals.length)),
        rest)

/-- The named constants. -/
def constants : List (List Char × Scalar) :=
  [("null".toList, .null), ("true".toList, .bool true), ("false".toList, .bool false),
   ("NaN".toList, .double .nan), ("Infinity".toList, .double (.infinite false)),
   ("-Infinity".toList, .double (.infinite true))]

/-- The constant that a text starts with, and what follows it. -/
def constant? (s : List Char) : Option (Scalar × List Char) :=
  constants.findSome? fun (name, value) =>
    if s.take name.length == name then some (value, s.drop name.length) else none

/-- Whether an atom at the start of a text is an integer of too many digits. -/
def isOversized (s : List Char) : Scalar → Bool
  | .int _ => Numeral.mostDigits < (spanDigits (Numeral.sign s).2).1.length
  | _ => false

/-- A constant or a number at the start of a text. An atom that consumed nothing is none. -/
def atom (s : List Char) : Except Stop (Scalar × Shorter s) :=
  match (constant? s).or (number? s) with
  | some (value, rest) =>
    if isOversized s value then .error ⟨.oversizedNumber, s⟩
    else if h : rest.length < s.length then .ok (value, ⟨rest, h⟩) else .error ⟨.valueExpected, s⟩
  | none => .error ⟨.valueExpected, s⟩

/-! ## 5. Values -/

/-- How many lists and tables may be open at once. -/
def mostOpen : Nat := 990

mutual

/-- A value at the start of a text; `room` more lists and tables may be open at once. -/
def value (room : Nat) (s : List Char) : Except Stop (Value × Shorter s) :=
  match s with
  | '"' :: rest => do
    let (content, ⟨after, ha⟩) ← textBody ('"' :: rest) rest
    .ok (.str (String.ofList content), ⟨after, by simp only [List.length_cons]; omega⟩)
  | '[' :: rest =>
    if room = 0 then .error ⟨.nestedTooDeeply, '[' :: rest⟩
    else
    let ⟨inner, hi⟩ := skipBlank rest
    match afterSign? ']' inner with
    | some ⟨after, ha⟩ => .ok (.list [], ⟨after, by simp only [List.length_cons]; omega⟩)
    | none => do
      let (items, ⟨after, ha⟩) ← elements (room - 1) inner
      .ok (.list items, ⟨after, by simp only [List.length_cons]; omega⟩)
  | '\x7b' :: rest =>
    if room = 0 then .error ⟨.nestedTooDeeply, '\x7b' :: rest⟩
    else
    let ⟨inner, hi⟩ := skipBlank rest
    match afterSign? '\x7d' inner with
    | some ⟨after, ha⟩ => .ok (.map [], ⟨after, by simp only [List.length_cons]; omega⟩)
    | none => do
      let (assignments, ⟨after, ha⟩) ← members (room - 1) inner
      .ok (.map (Entries.ofList assignments), ⟨after, by simp only [List.length_cons]; omega⟩)
  | s => do
    let (constant, rest) ← atom s
    .ok (.scalar constant, rest)
termination_by (s.length, 0)
decreasing_by all_goals simp_wf; apply Prod.Lex.left; omega

/-- The items of a list that is not empty, from the first item to the closing bracket. -/
def elements (room : Nat) (s : List Char) : Except Stop (List Value × Shorter s) := do
  let (first, ⟨rest, hr⟩) ← value room s
  let ⟨next, hn⟩ := skipBlank rest
  match afterSign? ']' next, afterSign? ',' next with
  | some ⟨after, ha⟩, _ => .ok ([first], ⟨after, by omega⟩)
  | none, some ⟨after, ha⟩ =>
    let ⟨start, hs⟩ := skipBlank after
    let (others, ⟨final, hf⟩) ← elements room start
    .ok (first :: others, ⟨final, by omega⟩)
  | none, none => .error ⟨.commaExpected, next⟩
termination_by (s.length, 1)
decreasing_by
  · apply Prod.Lex.right; omega
  · apply Prod.Lex.left; omega

/-- The assignments of a table that is not empty, from the first name to the closing brace. -/
def members (room : Nat) (s : List Char) : Except Stop (List (Scalar × Value) × Shorter s) :=
  match s with
  | '"' :: body => do
    let (name, ⟨afterName, hb⟩) ← textBody ('"' :: body) body
    let ⟨colon, hc⟩ := skipBlank afterName
    match afterSign? ':' colon with
    | some ⟨afterColon, ha⟩ =>
      let ⟨start, hs⟩ := skipBlank afterColon
      let (v, ⟨rest, hr⟩) ← value room start
      let ⟨next, hn⟩ := skipBlank rest
      match afterSign? '\x7d' next, afterSign? ',' next with
      | some ⟨after, hl⟩, _ =>
        .ok ([(.str (String.ofList name), v)], ⟨after, by simp only [List.length_cons]; omega⟩)
      | none, some ⟨after, hl⟩ =>
        let ⟨following, hf⟩ := skipBlank after
        let (others, ⟨final, hl⟩) ← members room following
        .ok ((.str (String.ofList name), v) :: others,
          ⟨final, by simp only [List.length_cons]; omega⟩)
      | none, none => .error ⟨.commaExpected, next⟩
    | none => .error ⟨.colonExpected, colon⟩
  | s => .error ⟨.nameExpected, s⟩
termination_by (s.length, 0)
decreasing_by all_goals simp_wf; apply Prod.Lex.left; omega

end

/-! ## 6. Whole texts -/

/-- The value of a whole text, with blanks around it. -/
def whole (text : List Char) : Except Stop Value := do
  let (v, ⟨rest, _⟩) ← value mostOpen (skipBlank text).1
  match (skipBlank rest).1 with
  | [] => .ok v
  | extra => .error ⟨.textAfterEnd, extra⟩

/-- The value that a JSON text denotes. -/
def read (text : List Char) : Except ReadError Value :=
  match whole text with
  | .ok v => .ok v
  | .error stop => .error (ReadError.at stop.offence text (text.length - stop.rest.length))

/-- The value that a JSON text denotes which was decoded already, so must not start with a mark. -/
def readDecoded (text : List Char) : Except ReadError Value :=
  if text.head? = some '\uFEFF' then .error (ReadError.at .byteOrderMark text 0) else read text

end ApiStore.Json
