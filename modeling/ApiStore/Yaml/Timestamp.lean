import ApiStore.Fault
import ApiStore.Number.Numeral
import ApiStore.Yaml.Cursor
/-
`Timestamp.lean` -- dates and date-times of a YAML text.

A date is a year of four digits, a month and a day of one or two. A time may follow,
after the letter `T` or after blanks: hours of one or two digits, minutes and seconds of
two, a fraction, and an offset from universal time. What is written need not be a day
that exists, so reading and checking are apart.
-/
set_option autoImplicit false

namespace ApiStore.Yaml

/-! ## 1. Parts -/

/-- One or two digits at the start of a text, and what follows them. -/
def shortNumber? (s : List Char) : Option (Nat × List Char) :=
  let digits := (s.take 2).takeWhile Char.isDigit
  if digits.isEmpty then none else some (Numeral.decimalNumber digits, s.drop digits.length)

/-- Digits of a given number at the start of a text, and what follows them. -/
def fixedNumber? (count : Nat) (s : List Char) : Option (Nat × List Char) :=
  let digits := (s.take count).takeWhile Char.isDigit
  if digits.length = count then some (Numeral.decimalNumber digits, s.drop count) else none

/-- What follows a given character at the start of a text. -/
def past? (c : Char) (s : List Char) : Option (List Char) :=
  match s with
  | d :: rest => if d = c then some rest else none
  | [] => none

/-- What follows the mark between a date and a time. -/
def pastClockMark? (s : List Char) : Option (List Char) :=
  match s with
  | 'T' :: rest | 't' :: rest => some rest
  | c :: rest => if isBlank c then some (rest.dropWhile isBlank) else none
  | [] => none

/-- Minutes of an offset, which may be left out, at the end of a text. -/
def offsetMinutes? (s : List Char) : Option Nat :=
  match s with
  | [] => some 0
  | ':' :: more => do
    let (minutes, final) ← fixedNumber? 2 more
    if final.isEmpty then some minutes else none
  | _ => none

/-- The offset at the end of a date-time in microseconds: none, `Z`, or hours and perhaps
minutes. -/
def offset? (s : List Char) : Option (Option Int) :=
  match s.dropWhile isBlank with
  | [] => if s.isEmpty then some none else none
  | ['Z'] => some (some 0)
  | mark :: rest =>
    if mark = '+' ∨ mark = '-' then do
      let (hours, after) ← shortNumber? rest
      let minutes ← offsetMinutes? after
      let size : Int := (hours * 3600 + minutes * 60) * 1000000
      some (some (if mark = '-' then -size else size))
    else none

/-- The microseconds of a fraction's digits; those after the sixth do not count. -/
def fractionMicros (digits : List Char) : Nat :=
  Numeral.decimalNumber ((digits ++ List.replicate 6 '0').take 6)

/-! ## 2. Reading -/

/-- A date, and what follows it. -/
def date? (s : List Char) : Option (Date × List Char) := do
  let (year, afterYear) ← fixedNumber? 4 s
  let (month, afterMonth) ← past? '-' afterYear >>= shortNumber?
  let (day, afterDay) ← past? '-' afterMonth >>= shortNumber?
  return ({ year := year, month := month, day := day }, afterDay)

/-- A date-time, of which the date was read. -/
def dateTime? (date : Date) (s : List Char) : Option DateTime := do
  let (hour, afterHour) ← pastClockMark? s >>= shortNumber?
  let (minute, afterMinute) ← past? ':' afterHour >>= fixedNumber? 2
  let (second, afterSecond) ← past? ':' afterMinute >>= fixedNumber? 2
  let (fraction, rest) := match afterSecond with
    | '.' :: more => (more.takeWhile Char.isDigit, more.dropWhile Char.isDigit)
    | rest => ([], rest)
  let offset ← offset? rest
  return { date := date, hour := hour, minute := minute, second := second,
           micro := fractionMicros fraction, offset := offset }

/-- The date or the date-time that a text denotes. -/
def timestamp? (s : List Char) : Option (Date ⊕ DateTime) := do
  let (date, rest) ← date? s
  if rest.isEmpty then some (.inl date) else (dateTime? date rest).map .inr

/-- Whether a text looks like a timestamp without being called one: a date alone has all its ten
characters then. -/
def isTimestamp (s : List Char) : Bool :=
  match timestamp? s with
  | some (.inl _) => s.length == 10
  | some (.inr _) => true
  | none => false

/-! ## 3. Checking -/

/-- A date, if there is such a day. -/
def checkedDate (d : Date) : Except Fault Scalar :=
  if d.isValid then .ok (.date d)
  else if d.year = 0 then .error (.range "year 0 is out of range")
  else if d.month = 0 ∨ 12 < d.month then .error (.range "month must be in 1..12")
  else .error (.range "day is out of range for month")

/-- A date-time, if there is such a day and time. -/
def checkedDateTime (t : DateTime) : Except Fault Scalar := do
  if DateTime.dayMicros ≤ (t.offset.getD 0).natAbs then
    throw (.range "offset must be strictly between -24 and 24 hours")
  let _ ← checkedDate t.date
  if t.isValid then return .dateTime t
  else
    throw
      (.range
      (if 23 < t.hour then "hour must be in 0..23" else if 59 < t.minute
      then "minute must be in 0..59" else "second must be in 0..59"))

end ApiStore.Yaml
