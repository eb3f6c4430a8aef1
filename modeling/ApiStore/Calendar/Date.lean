import ApiStore.Number.Shortest
/-
`Date.lean` -- dates and date-times of the proleptic Gregorian calendar.

Dates enter through YAML documents, where an unquoted `2020-01-01` is a date and not
a text, and date-times also through the clock of a collection. The library never
computes with them beyond three things: it writes them in ISO form, it compares two
of them, and it finds the day that an ISO week names. The last two need a day count,
`Date.ordinal`, in which 1 January of year 1 is day 1.
-/
set_option autoImplicit false

namespace ApiStore

/-- A day of a month of a year. -/
structure Date where
  year : Nat
  month : Nat
  day : Nat
  deriving DecidableEq, Repr, Inhabited

/-- A date with a time of day, and the offset from universal time in microseconds if it is known. -/
structure DateTime where
  date : Date
  hour : Nat
  minute : Nat
  second : Nat
  micro : Nat
  offset : Option Int
  deriving DecidableEq, Repr, Inhabited

namespace Date

/-! ## 1. Months and days -/

/-- Whether a year has 366 days. -/
def isLeap (year : Nat) : Bool := year % 4 == 0 && (year % 100 != 0 || year % 400 == 0)

/-- The number of days of a month; zero for a month that does not exist. -/
def daysInMonth (year month : Nat) : Nat :=
  if month = 2 then (if isLeap year then 29 else 28)
  else if month ∈ [4, 6, 9, 11] then 30
  else if 1 ≤ month ∧ month ≤ 12 then 31
  else 0

/-- Whether the date exists, in the years 1 to 9999. -/
def isValid (d : Date) : Bool :=
  1 ≤ d.year && d.year ≤ 9999 && 1 ≤ d.day && d.day ≤ daysInMonth d.year d.month

/-! ## 2. Day counts -/

/-- Days of the years before `year`. -/
def daysBeforeYear (year : Nat) : Nat :=
  let y := year - 1
  y * 365 + y / 4 - y / 100 + y / 400

/-- Days of the months of `year` before `month`. -/
def daysBeforeMonth (year month : Nat) : Nat :=
  ((List.range (month - 1)).map fun m => daysInMonth year (m + 1)).foldr (· + ·) 0

/-- The day's number; 1 January of year 1 is 1. -/
def ordinal (d : Date) : Nat := daysBeforeYear d.year + daysBeforeMonth d.year d.month + d.day

/-- The day of the week, Monday being 0. -/
def weekday (d : Date) : Nat := (d.ordinal + 6) % 7

/-- The month and day that lie `rest` days after the last day of the month before `month`. -/
def monthDay (year rest : Nat) : (months : List Nat) → Nat × Nat
  | [] => (12, rest)
  | m :: more =>
    if rest ≤ daysInMonth year m then (m, rest) else monthDay year (rest - daysInMonth year m) more

/-- The date with a given number. The year is found from below: an average year has 365.2425
days, so the quotient is at most one too large. -/
def ofOrdinal (n : Nat) : Date :=
  let guess := n * 400 / 146097 + 1
  let year := if n ≤ daysBeforeYear guess then guess - 1 else guess
  let (month, day) :=
    monthDay year (n - daysBeforeYear year) [1, 2, 3, 4, 5, 6, 7, 8, 9, 10, 11, 12]
  { year := year, month := month, day := day }

/-- The Monday of the first ISO week of a year, the week that holds its first Thursday. -/
def firstWeekMonday (year : Nat) : Nat :=
  let first : Date := { year := year, month := 1, day := 1 }
  let monday := first.ordinal - first.weekday
  if 3 < first.weekday then monday + 7 else monday

/-- Whether an ISO year has a week of this number; 53 weeks need a first of January on a
Thursday, or on a Wednesday of a leap year. -/
def hasWeek (year week : Nat) : Bool :=
  let first := weekday { year := year, month := 1, day := 1 }
  (1 ≤ week && week ≤ 52) || (week == 53 && (first == 3 || (first == 2 && isLeap year)))

/-- The date of a day of an ISO week. -/
def ofWeek (year week day : Nat) : Option Date :=
  if 1 ≤ year ∧ year ≤ 9999 ∧ hasWeek year week ∧ 1 ≤ day ∧ day ≤ 7 then
    some (ofOrdinal (firstWeekMonday year + (week - 1) * 7 + (day - 1)))
  else none

/-! ## 3. Text -/

/-- A natural number with leading zeros up to a width. -/
def padded (width n : Nat) : String :=
  let digits := natText n
  String.ofList (List.replicate (width - digits.length) '0') ++ digits

/-- The date in ISO form. -/
def iso (d : Date) : String := padded 4 d.year ++ "-" ++ padded 2 d.month ++ "-" ++ padded 2 d.day

end Date

namespace DateTime

/-- Whether date and time of day exist. -/
def isValid (t : DateTime) : Bool :=
  t.date.isValid && t.hour < 24 && t.minute < 60 && t.second < 60 && t.micro < 1000000

/-- Microseconds since the day before the first, in universal time if the offset is known. -/
def instant (t : DateTime) : Int :=
  let seconds : Int := ((t.date.ordinal * 24 + t.hour) * 60 + t.minute) * 60 + t.second
  seconds * 1000000 + t.micro - t.offset.getD 0

/-- Whether two date-times denote the same instant; one with and one without an offset never do. -/
def same (a b : DateTime) : Bool := a.offset.isSome == b.offset.isSome && a.instant == b.instant

/-- The time of day, with six digits of a second's fraction if there is one. -/
def clock (t : DateTime) : String :=
  Date.padded 2 t.hour ++ ":" ++ Date.padded 2 t.minute ++ ":" ++ Date.padded 2 t.second ++
    (if t.micro = 0 then "" else "." ++ Date.padded 6 t.micro)

/-- An offset, with seconds only where it has some, and with a fraction of them only where it has
one. -/
def offsetText (o : Int) : String :=
  let size := o.natAbs / 1000000
  let micro := o.natAbs % 1000000
  (if o < 0 then "-" else "+") ++ Date.padded 2 (size / 3600) ++ ":" ++
    Date.padded 2 (size / 60 % 60) ++
    (if size % 60 = 0 ∧ micro = 0 then "" else ":" ++ Date.padded 2 (size % 60)) ++
    (if micro = 0 then "" else "." ++ Date.padded 6 micro)

/-- The microseconds of a day. -/
def dayMicros : Nat := 86400000000

/-- Date, a separator, time of day and offset. -/
def written (separator : String) (offset : Int → String) (t : DateTime) : String :=
  t.date.iso ++ separator ++ t.clock ++ (t.offset.map offset).getD ""

/-- The date-time in ISO form. -/
def iso (t : DateTime) : String := t.written "T" offsetText

/-- The date-time for a reader: a blank instead of the letter. -/
def spaced (t : DateTime) : String := t.written " " offsetText

/-- The date-time as plain data: ISO form, with `Z` for universal time. -/
def plain (t : DateTime) : String := t.written "T" fun o => if o = 0 then "Z" else offsetText o

end DateTime

end ApiStore
