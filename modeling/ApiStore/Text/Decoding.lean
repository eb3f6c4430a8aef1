import ApiStore.Number.Shortest
import ApiStore.Text.Quoted
/-
`Decoding.lean` -- bytes to text.

A text arrives as bytes in one of the Unicode encodings: always UTF-8 for a file, and
for a JSON document whichever of UTF-8, UTF-16 and UTF-32 its first bytes betray. The
decoder takes one character at a time off the front, and stops at the first bytes that
are not one; the report names those bytes by their positions.

**Where the faulty bytes end.** A character of several bytes fails at the first byte
that cannot continue it, and the report covers the bytes before that one, so what was
read of the character and nothing else. A text that merely stops too soon is reported
to its end.
-/
set_option autoImplicit false

namespace ApiStore.Text

/-! ## 1. Encodings and their faults -/

/-- A Unicode encoding, and for wide units whether the most significant byte comes first. -/
inductive Encoding where
  | utf8
  | utf16 (bigEndian : Bool)
  | utf32 (bigEndian : Bool)
  deriving DecidableEq, Repr

/-- The name of an encoding in reports. -/
def Encoding.name : Encoding → String
  | .utf8 => "utf-8"
  | .utf16 false => "utf-16-le"
  | .utf16 true => "utf-16-be"
  | .utf32 false => "utf-32-le"
  | .utf32 true => "utf-32-be"

/-- What can be wrong with the bytes of a character. -/
inductive ByteFlaw where
  | noStart
  | noContinuation
  | endOfData
  | truncated
  | beyondUnicode
  | unspecified
  deriving DecidableEq, Repr

/-- The words for a flaw. -/
def ByteFlaw.message : ByteFlaw → String
  | .noStart => "invalid start byte"
  | .noContinuation => "invalid continuation byte"
  | .endOfData => "unexpected end of data"
  | .truncated => "truncated data"
  | .beyondUnicode => "code point not in range(0x110000)"
  | .unspecified => "invalid utf-8"

/-- Bytes that are not a character: the first of them, where it stands, and how many there are. -/
structure DecodingError where
  encoding : Encoding
  flaw : ByteFlaw
  byte : UInt8
  position : Nat
  count : Nat
  deriving DecidableEq, Repr

/-- The report of a text that cannot be decoded. -/
def DecodingError.message (e : DecodingError) : String :=
  let place :=
    if e.count = 1 then "byte 0x" ++ hex 2 e.byte.toNat ++ " in position " ++ natText e.position
    else "bytes in position " ++ natText e.position ++ "-" ++ natText (e.position + e.count - 1)
  "'" ++ e.encoding.name ++ "' codec can't decode " ++ place ++ ": " ++ e.flaw.message

/-! ## 2. One character -/

/-- A flaw, and the number of bytes it covers. -/
abbrev FlawAt := ByteFlaw × Nat

/-- A character, and how many bytes it took after its first one. -/
abbrev Taken := Char × Nat

/-- Reads `count` continuation bytes, the first of which lies between `low` and `high`; `seen`
bytes of the character were read before, with the value `acc`. -/
def continuation (low high : UInt8) (acc seen : Nat) : (count : Nat) → List UInt8 →
    Except FlawAt Nat
  | 0, _ => .ok acc
  | _ + 1, [] => .error (.endOfData, seen)
  | count + 1, b :: rest =>
    if low ≤ b ∧ b ≤ high then
      continuation 0x80 0xBF (acc * 64 + b.toNat % 64) (seen + 1) count rest
    else .error (.noContinuation, seen)

/-- A UTF-8 character. The bounds of its second byte keep out long forms, halves of pairs and
values beyond Unicode. -/
def utf8Char (b : UInt8) (rest : List UInt8) : Except FlawAt Taken :=
  let n := b.toNat
  let taken (low high : UInt8) (count lead : Nat) : Except FlawAt Taken :=
    (continuation low high lead 1 count rest).map fun code => (Char.ofNat code, count)
  if n < 0x80 then .ok (Char.ofNat n, 0)
  else if n < 0xC2 then .error (.noStart, 1)
  else if n < 0xE0 then taken 0x80 0xBF 1 (n % 32)
  else if n < 0xF0 then taken (if n = 0xE0 then 0xA0 else 0x80) (if n = 0xED then 0x9F else 0xBF) 2
    (n % 16)
  else if n < 0xF5 then taken (if n = 0xF0 then 0x90 else 0x80) (if n = 0xF4 then 0x8F else 0xBF) 3
    (n % 8)
  else .error (.noStart, 1)

/-- A UTF-8 character of a text that may hold halves of pairs, written as if they were
characters. -/
def utf8CharOrHalf (b : UInt8) (rest : List UInt8) : Except FlawAt Taken :=
  match b, rest with
  | 0xED, c :: d :: _ =>
    if 0xA0 ≤ c ∧ c ≤ 0xBF ∧ 0x80 ≤ d ∧ d ≤ 0xBF then
      .ok (charOfUnit (0xD000 + (c.toNat % 64) * 64 + d.toNat % 64), 2)
    else utf8Char b rest
  | _, _ => utf8Char b rest

/-- The number that bytes denote. -/
def unitValue (bigEndian : Bool) (bytes : List UInt8) : Nat :=
  (if bigEndian then bytes else bytes.reverse).foldl (fun n b => n * 256 + b.toNat) 0

/-- A UTF-16 character: one unit, or a pair of halves. -/
def utf16Char (bigEndian : Bool) (b : UInt8) (rest : List UInt8) : Except FlawAt Taken :=
  match rest with
  | [] => .error (.truncated, 1)
  | c :: more =>
    let unit := unitValue bigEndian [b, c]
    match more with
    | d :: e :: _ =>
      let next := unitValue bigEndian [d, e]
      if isHighHalf unit && isLowHalf next then .ok (charOfPair unit next, 3)
      else .ok (charOfUnit unit, 1)
    | _ => .ok (charOfUnit unit, 1)

/-- A UTF-32 character. -/
def utf32Char (bigEndian : Bool) (b : UInt8) (rest : List UInt8) : Except FlawAt Taken :=
  match rest with
  | c :: d :: e :: _ =>
    let code := unitValue bigEndian [b, c, d, e]
    if code < 0x110000 then .ok (charOfUnit code, 3) else .error (.beyondUnicode, 4)
  | short => .error (.truncated, short.length + 1)

/-- One character, given the bytes from its first one on. -/
def Encoding.char (encoding : Encoding) (halves : Bool) (b : UInt8) (rest : List UInt8) :
    Except FlawAt Taken :=
  match encoding with
  | .utf8 => if halves then utf8CharOrHalf b rest else utf8Char b rest
  | .utf16 bigEndian => utf16Char bigEndian b rest
  | .utf32 bigEndian => utf32Char bigEndian b rest

/-! ## 3. Whole texts -/

/-- The characters of a text whose first byte stands at `position`; `halves` lets halves of pairs
stand on their own. -/
def decodeFrom (encoding : Encoding) (halves : Bool) (position : Nat) (bytes : List UInt8) :
    Except DecodingError (List Char) :=
  match bytes with
  | [] => .ok []
  | b :: rest =>
    match encoding.char halves b rest with
    | .error (flaw, count) =>
      .error { encoding := encoding, flaw := flaw, byte := b, position := position, count := count }
    | .ok (c, more) =>
      (decodeFrom encoding halves (position + more + 1) (rest.drop more)).map (c :: ·)
termination_by bytes.length
decreasing_by simp only [List.length_drop, List.length_cons]; omega

/-- The text of a UTF-8 file. -/
def decodeUtf8 (bytes : List UInt8) : Except DecodingError String :=
  (decodeFrom .utf8 false 0 bytes).map String.ofList

/-- The encoding of a JSON text, and the length of the mark it starts with. Without a mark, the
zeros among the first bytes tell: the first characters of a JSON text are ASCII. -/
def jsonEncoding (bytes : List UInt8) : Encoding × Nat :=
  match bytes with
  | 0x00 :: 0x00 :: 0xFE :: 0xFF :: _ => (.utf32 true, 4)
  | 0xFF :: 0xFE :: 0x00 :: 0x00 :: _ => (.utf32 false, 4)
  | 0xFE :: 0xFF :: _ => (.utf16 true, 2)
  | 0xFF :: 0xFE :: _ => (.utf16 false, 2)
  | 0xEF :: 0xBB :: 0xBF :: _ => (.utf8, 3)
  | [0x00, _] => (.utf16 true, 0)
  | [_, 0x00] => (.utf16 false, 0)
  | 0x00 :: b :: _ :: _ :: _ => (if b = 0 then .utf32 true else .utf16 true, 0)
  | _ :: 0x00 :: c :: d :: _ => (if c = 0 ∧ d = 0 then .utf32 false else .utf16 false, 0)
  | _ => (.utf8, 0)

/-- The text of a JSON document. Positions count the mark, except that of UTF-8. -/
def decodeJson (bytes : List UInt8) : Except DecodingError String :=
  let (encoding, mark) := jsonEncoding bytes
  let start := if encoding = .utf8 then 0 else mark
  (decodeFrom encoding true start (bytes.drop mark)).map String.ofList

/-- A text in which every line ends with a line feed alone. -/
def unixLines : List Char → List Char
  | [] => []
  | '\r' :: '\n' :: rest => '\n' :: unixLines rest
  | '\r' :: rest => '\n' :: unixLines rest
  | c :: rest => c :: unixLines rest

end ApiStore.Text
