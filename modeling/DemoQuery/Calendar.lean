import DemoQuery.Text.Reading
import DemoQuery.Text.Showing

/-!
# Dates

Moments are counted in seconds since the start of 1970 and shown as dates and times of the
Gregorian calendar, extended to all years, in universal time and to the minute. Only the years from
-262143 to 262142 are shown as dates; the number stands for a moment outside of them.

The calendar repeats itself every 400 years. Counting a year from the first of March puts the leap
day at its end, so that the lengths of the months do not depend on the year.
-/

namespace DemoQuery

/-- A day of the Gregorian calendar. -/
structure Date where
  year  : Int
  month : Nat
  day   : Nat
  deriving DecidableEq, Repr

/-- A minute of a day. -/
structure Moment where
  date   : Date
  hour   : Nat
  minute : Nat
  deriving DecidableEq, Repr

/-! ### Days -/

/-- The number of days in 400 years. -/
def daysPerCycle : Nat := 146097

/-- The days from the first of March of the year 0 to the start of 1970. -/
def daysTo1970 : Nat := 719468

/-- The year, counted from March, in which a day of a cycle lies. -/
def yearOfCycle (day : Nat) : Nat :=
  (day - day / 1460 + day / 36524 - day / 146096) / 365

/-- The first day of a year of a cycle. -/
def firstDayOfYear (year : Nat) : Nat :=
  365 * year + year / 4 - year / 100

/-- The month, counted from March, in which a day of a year lies. -/
def monthOfYear (day : Nat) : Nat :=
  (5 * day + 2) / 153

/-- The first day of a month of a year. -/
def firstDayOfMonth (month : Nat) : Nat :=
  (153 * month + 2) / 5

/-- The date that lies a number of days after the first of January 1970. -/
def Date.ofDays (days : Int) : Date :=
  let cycle := (days + daysTo1970) / daysPerCycle
  let dayOfCycle := ((days + daysTo1970) % daysPerCycle).toNat
  let year := yearOfCycle dayOfCycle
  let dayOfYear := dayOfCycle - firstDayOfYear year
  let month := monthOfYear dayOfYear
  { year  := 400 * cycle + year + if month < 10 then 0 else 1
    month := if month < 10 then month + 3 else month - 9
    day   := dayOfYear - firstDayOfMonth month + 1 }

/-- Whether a year has a leap day. -/
def isLeapYear (year : Nat) : Bool :=
  year % 4 == 0 && (year % 100 != 0 || year % 400 == 0)

/-- The number of days of a month. -/
def daysOfMonth (year month : Nat) : Nat :=
  if month = 2 then if isLeapYear year then 29 else 28
  else if month ∈ [4, 6, 9, 11] then 30
  else 31

/-! ### Moments -/

/-- The minute in which a second since the start of 1970 lies. -/
def Moment.ofSeconds (seconds : Int) : Moment :=
  let ofDay := (seconds % 86400).toNat
  { date   := Date.ofDays (seconds / 86400)
    hour   := ofDay / 3600
    minute := ofDay % 3600 / 60 }

/-- The first and the last year that are shown. -/
def Date.yearRange : Int × Int :=
  (-262143, 262142)

/-- Whether a date is shown. -/
def Date.isShown (d : Date) : Bool :=
  Date.yearRange.1 ≤ d.year && d.year ≤ Date.yearRange.2

/-! ### Text -/

/-- The text of a year: four digits, or a sign and at least four outside of 0 to 9999. -/
def yearText (year : Int) : String :=
  let sign := if year < 0 then "-" else if 9999 < year then "+" else ""
  sign ++ Text.padZeros 4 year.natAbs

/-- The text of a date. -/
def Date.text (d : Date) : String :=
  yearText d.year ++ "-" ++ Text.padZeros 2 d.month ++ "-" ++ Text.padZeros 2 d.day

/-- The text of a moment. -/
def Moment.text (m : Moment) : String :=
  m.date.text ++ " " ++ Text.padZeros 2 m.hour ++ ":" ++ Text.padZeros 2 m.minute

/-- The text for a number of seconds since the start of 1970 (`format_timestamp`). -/
def timestampText (seconds : Int) : String :=
  let moment := Moment.ofSeconds seconds
  if moment.date.isShown then moment.text else Text.ofInteger seconds

end DemoQuery
