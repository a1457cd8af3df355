/-!
# Dates of the Gregorian calendar

A number of seconds since the start of 1970 is a date and a time of day in UTC, in the Gregorian
calendar extended to all years before and after its introduction. The years are counted from the
first of March in between, so that the leap day is the last day of a year: a cycle of 400 such
years has 146097 days, and within a year the month and day follow from the number of the day
alone.
-/

namespace RevisionControl.Time

/-- A date and a time of day. -/
structure Civil where
  /-- The year; before the year 1 stands the year 0. -/
  year : Int
  /-- The month, from 1 on. -/
  month : Nat
  /-- The day of the month, from 1 on. -/
  day : Nat
  /-- The hour. -/
  hour : Nat
  /-- The minute. -/
  minute : Nat
  /-- The second. -/
  second : Nat
deriving DecidableEq, Repr

namespace Civil

/-! ## The calendar -/

/-- Whether a year has a leap day. -/
def isLeapYear (year : Int) : Bool :=
  year % 4 == 0 && (year % 100 != 0 || year % 400 == 0)

/-- The number of days of a month. -/
def daysInMonth (year : Int) (month : Nat) : Nat :=
  if month = 2 then if isLeapYear year then 29 else 28
  else if month = 4 ∨ month = 6 ∨ month = 9 ∨ month = 11 then 30
  else 31

/-- A date that the calendar has, with a time that the day has. -/
structure Valid (c : Civil) : Prop where
  /-- There are twelve months. -/
  month_mem : 1 ≤ c.month ∧ c.month ≤ 12
  /-- The day is one of the month. -/
  day_mem : 1 ≤ c.day ∧ c.day ≤ daysInMonth c.year c.month
  /-- There are 24 hours. -/
  hour_lt : c.hour < 24
  /-- There are 60 minutes. -/
  minute_lt : c.minute < 60
  /-- There are 60 seconds. -/
  second_lt : c.second < 60

/-! ## Counting days -/

/-- The days of a cycle of 400 years. -/
def cycleDays : Nat := 146097

/-- The days from the first of March of the year 0 to the start of 1970. -/
def epochDay : Int := 719468

/-- The year of a cycle, both from 0 on, in which a day of the cycle lies. -/
def yearOfCycle (day : Nat) : Nat :=
  (day - day / 1460 + day / 36524 - day / 146096) / 365

/-- The days of a cycle before one of its years. -/
def daysBeforeYear (year : Nat) : Nat :=
  365 * year + year / 4 - year / 100

/-- The month, from March as 0 on, in which a day of the year lies. -/
def monthOfYear (day : Nat) : Nat :=
  (5 * day + 2) / 153

/-- The days of the year before one of its months. -/
def daysBeforeMonth (month : Nat) : Nat :=
  (153 * month + 2) / 5

/-- The date and time that are so many seconds after the start of 1970. -/
def ofTimestamp (seconds : Int) : Civil :=
  let sinceMarch := seconds / 86400 + epochDay
  let time := (seconds % 86400).toNat
  let day := (sinceMarch % cycleDays).toNat
  let year := yearOfCycle day
  let dayOfYear := day - daysBeforeYear year
  let month := monthOfYear dayOfYear
  { year := sinceMarch / cycleDays * 400 + year + (if month < 10 then 0 else 1)
    month := if month < 10 then month + 3 else month - 9
    day := dayOfYear - daysBeforeMonth month + 1
    hour := time / 3600
    minute := time / 60 % 60
    second := time % 60 }

/-- The seconds from the start of 1970 to a date and time. -/
def timestamp (c : Civil) : Int :=
  let year := if c.month < 3 then c.year - 1 else c.year
  let month := if c.month < 3 then c.month + 9 else c.month - 3
  let ofCycle := (year % 400).toNat
  let days := year / 400 * cycleDays + daysBeforeYear ofCycle + daysBeforeMonth month +
    (c.day - 1 : Nat) - epochDay
  days * 86400 + (c.hour * 3600 + c.minute * 60 + c.second : Nat)

/-! ## Text -/

/-- A number with at least `width` digits. -/
def padded (width n : Nat) : String :=
  let digits := Nat.toDigits 10 n
  String.ofList (List.replicate (width - digits.length) '0' ++ digits)

/-- A year: four digits, and outside of what four digits can say a sign before them. -/
def yearText (year : Int) : String :=
  if 0 ≤ year ∧ year ≤ 9999 then padded 4 year.natAbs
  else (if year < 0 then "-" else "+") ++ padded 4 year.natAbs

/-- A date and time with its offset from UTC, which is none. -/
def text (c : Civil) : String :=
  yearText c.year ++ "-" ++ padded 2 c.month ++ "-" ++ padded 2 c.day ++ "T" ++
    padded 2 c.hour ++ ":" ++ padded 2 c.minute ++ ":" ++ padded 2 c.second ++ "+00:00"

end Civil

end RevisionControl.Time
