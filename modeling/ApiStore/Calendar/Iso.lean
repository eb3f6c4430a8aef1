import ApiStore.Calendar.Date
/-
`Iso.lean` -- reading dates and date-times in the ISO 8601 family of forms.

A date is written `YYYY-MM-DD` or `YYYYMMDD`, or as a week `YYYY-Www`, `YYYYWww` with
or without its day. A time follows after one separator, which may be any character:
hours, then minutes, then seconds, with colons or without, then a fraction after a
point or a comma, then an offset written like a time, or `Z`. Where the date ends is
decided from the first characters alone, before anything is read.

**Two laxities.** The text is scanned in bytes, and a byte beyond the end reads as
zero. A time that is followed by an offset may be separated from it by one stray
character, because what follows the last component is looked at only when no offset
is there to explain it; and a third component may be followed directly by fraction
digits. Both are part of what counts as a date here.
-/
set_option autoImplicit false

namespace ApiStore.Iso

/-! ## 1. Bytes and digits -/

/-- The byte at a position; zero beyond the end. -/
def byteAt (b : ByteArray) (i : Nat) : Nat := (b[i]?.getD 0).toNat

/-- Whether a byte is an ASCII digit. -/
def isDigit (c : Nat) : Bool := 48 ≤ c && c ≤ 57

/-- The number that `count` digits from a position denote. -/
def digits (b : ByteArray) (start count : Nat) : Option Nat :=
  (List.range count).foldlM
    (fun acc k =>
      let c := byteAt b (start + k)
      if isDigit c then some (acc * 10 + (c - 48)) else none)
    0

/-- The first position from `start` that holds no digit; `fuel` bounds the distance. -/
def skipDigits (b : ByteArray) : (fuel start : Nat) → Nat
  | 0, start => start
  | fuel + 1, start => if isDigit (byteAt b start) then skipDigits b fuel (start + 1) else start

/-- The byte of a character. -/
def code (c : Char) : Nat := c.toNat

/-! ## 2. The date -/

/-- Where the date ends and the separator stands. The fifth and sixth character tell the
forms apart. A week without hyphens may carry a day: the digits that follow, taken to
their end, are a day and pairs of a time exactly if their last position is odd. -/
def dateEnd (b : ByteArray) : Option Nat :=
  let size := b.size
  if size = 7 then some 7
  else if byteAt b 4 = code '-' then
    if byteAt b 5 = code 'W' then
      if 8 < size ∧ byteAt b 8 = code '-' then
        if size = 9 then none
        else if 10 < size ∧ isDigit (byteAt b 10) then some 8
        else some 10
      else some 8
    else some 10
  else if byteAt b 4 = code 'W' then
    let stop := skipDigits b (size - 7) 7
    if stop < 9 then some stop else if stop % 2 = 0 then some 7 else some 8
  else some 8

/-- The date that stands before `stop`. Hyphens are used everywhere or nowhere. -/
def date? (b : ByteArray) (stop : Nat) : Option Date := do
  let year ← digits b 0 4
  let hyphens := byteAt b 4 == code '-'
  let start := if hyphens then 5 else 4
  if byteAt b start = code 'W' then
    let week ← digits b (start + 1) 2
    let after := start + 3
    if after < stop then
      if hyphens && byteAt b after != code '-' then none
      else
        let day ← digits b (if hyphens then after + 1 else after) 1
        Date.ofWeek year week day
    else Date.ofWeek year week 1
  else
    let month ← digits b start 2
    let after := start + 2
    if hyphens && byteAt b after != code '-' then none
    else
      let day ← digits b (if hyphens then after + 1 else after) 2
      some { year := year, month := month, day := day }

/-! ## 3. The time of day -/

/-- What follows the last two-digit component of a time: nothing or one unread character,
or a fraction that starts at a position. -/
inductive ClockRest where
  | ended (unread : Bool)
  | fraction (start : Nat)

/-- Up to `left` more components from `pos`. The first component decides whether colons
are used. -/
def components (b : ByteArray) (stop : Nat) :
    (left : Nat) → (colons : Option Bool) → (pos : Nat) → Option (List Nat × ClockRest)
  | 0, _, pos => some ([], .fraction pos)
  | left + 1, colons, pos => do
    let value ← digits b pos 2
    let next := byteAt b (pos + 2)
    let colons := colons.getD (next == code ':')
    if stop ≤ pos + 3 then some ([value], .ended (next != 0))
    else if colons && next == code ':' then
      let (more, rest) ← components b stop left (some colons) (pos + 3)
      some (value :: more, rest)
    else if next == code '.' || next == code ',' then some ([value], .fraction (pos + 3))
    else if colons then none
    else
      let (more, rest) ← components b stop left (some colons) (pos + 2)
      some (value :: more, rest)

/-- A time: its components and microseconds, and whether something unread follows. -/
structure Clock where
  hour : Nat
  minute : Nat
  second : Nat
  micro : Nat
  unread : Bool

/-- The time between two positions. Of a fraction six digits count, further digits are passed
over. -/
def clock? (b : ByteArray) (start stop : Nat) : Option Clock := do
  let (parts, rest) ← components b stop 3 none start
  let part (i : Nat) : Nat := parts[i]?.getD 0
  match rest with
  | .ended unread =>
    some { hour := part 0, minute := part 1, second := part 2, micro := 0, unread := unread }
  | .fraction pos =>
    let count := min 6 (stop - pos)
    let value ← digits b pos count
    let after := skipDigits b (b.size - pos) (pos + count)
    some { hour := part 0, minute := part 1, second := part 2,
           micro := value * Nat.pow 10 (6 - count), unread := byteAt b after != 0 }

/-- The first position at or after `start` that opens an offset; the first character is
looked at even when there is none. -/
def offsetStart (b : ByteArray) : (fuel start stop : Nat) → Nat
  | 0, start, _ => start
  | fuel + 1, start, stop =>
    if byteAt b start ∈ [code '+', code '-', code 'Z'] then start
    else if start + 1 < stop then offsetStart b fuel (start + 1) stop
    else start + 1

/-- The time and the offset from `start` to the end of the text. An offset that is a fraction of a
second is none at all. -/
def timed? (b : ByteArray) (start : Nat) : Option (Clock × Option Int) := do
  let stop := b.size
  let zone := offsetStart b (stop - start + 1) start stop
  let clock ← clock? b start zone
  if zone = stop then
    if clock.unread then none else some (clock, none)
  else if byteAt b zone = code 'Z' then
    if byteAt b (zone + 1) = 0 then some (clock, some 0) else none
  else
    let shift ← clock? b (zone + 1) stop
    if shift.unread then none
    else
      let seconds := shift.hour * 3600 + shift.minute * 60 + shift.second
      let size : Int := if seconds = 0 then 0 else seconds * 1000000 + shift.micro
      some (clock, some (if byteAt b zone = code '-' then -size else size))

/-- How many bytes the character that starts with this byte takes. -/
def charWidth (c : Nat) : Nat :=
  if c < 128 then 1 else if c / 16 = 14 then 3 else if c / 16 = 15 then 4 else 2

/-! ## 4. The whole text -/

/-- The date-time that a text denotes, midnight if it names a day only. An offset has to be
shorter than a day. -/
def dateTime? (text : String) : Option DateTime := do
  if text.length < 7 then none
  else
    let b := text.toUTF8
    let stop ← dateEnd b
    let date ← date? b stop
    let (clock, offset) ←
      if stop < b.size then timed? b (stop + charWidth (byteAt b stop))
      else some ({ hour := 0, minute := 0, second := 0, micro := 0, unread := false }, none)
    let result : DateTime :=
      { date := date, hour := clock.hour, minute := clock.minute, second := clock.second,
        micro := clock.micro, offset := offset }
    if result.isValid && (offset.getD 0).natAbs < DateTime.dayMicros then some result else none

/-- The date that a text in the form `YYYY-MM-DD` denotes. -/
def calendarDate? (text : String) : Option Date := do
  let t ← dateTime? text
  if t.date.iso = text then some t.date else none

end ApiStore.Iso
