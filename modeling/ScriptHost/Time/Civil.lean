/-
ScriptHost.Time.Civil — dates of the calendar.

A date of the Gregorian calendar, continued backwards before its start.
`Date.ofDays` and `Date.toDays` count days from the first of January 1970,
with March as the first month of the counted year so that the leap day
comes last.
-/

namespace ScriptHost

/-- A date of the calendar. -/
structure Date where
  year : Int
  month : Nat
  day : Nat
  deriving DecidableEq, Repr, Inhabited

namespace Date

/-- Has the year a leap day? -/
def isLeap (year : Int) : Bool :=
  year % 4 = 0 && (year % 100 ≠ 0 || year % 400 = 0)

/-- How many days a month has. -/
def monthLength (year : Int) (month : Nat) : Nat :=
  if month = 2 then (if isLeap year then 29 else 28)
  else if month = 4 ∨ month = 6 ∨ month = 9 ∨ month = 11 then 30
  else 31

/-- The years that dates are kept for. -/
def leastYear : Int := -262143
def largestYear : Int := 262142

/-- Is it a date that exists and is kept? -/
def isValid (d : Date) : Bool :=
  leastYear ≤ d.year && d.year ≤ largestYear && 1 ≤ d.month && d.month ≤ 12
    && 1 ≤ d.day && d.day ≤ monthLength d.year d.month

/-- Days from 1 March of the year 0 to the epoch. -/
def epochOffset : Int := 719468

/-- Days in 400 years. -/
def eraLength : Int := 146097

/-- The day number of a date: days since 1 January 1970. -/
def toDays (d : Date) : Int :=
  let y : Int := if d.month ≤ 2 then d.year - 1 else d.year
  let era := y / 400
  let yearOfEra := y % 400
  let shifted : Int := if d.month ≤ 2 then (d.month : Int) + 9 else d.month - 3
  let dayOfYear := (153 * shifted + 2) / 5 + (d.day : Int) - 1
  let dayOfEra := yearOfEra * 365 + yearOfEra / 4 - yearOfEra / 100 + dayOfYear
  era * eraLength + dayOfEra - epochOffset

/-- The date of a day number. -/
def ofDays (days : Int) : Date :=
  let z := days + epochOffset
  let era := z / eraLength
  let dayOfEra := z % eraLength
  let yearOfEra :=
    (dayOfEra - dayOfEra / 1460 + dayOfEra / 36524 - dayOfEra / 146096) / 365
  let dayOfYear :=
    dayOfEra - (365 * yearOfEra + yearOfEra / 4 - yearOfEra / 100)
  let shifted := (5 * dayOfYear + 2) / 153
  let day := dayOfYear - (153 * shifted + 2) / 5 + 1
  let month := if shifted < 10 then shifted + 3 else shifted - 9
  let year := yearOfEra + era * 400 + (if month ≤ 2 then 1 else 0)
  ⟨year, month.toNat, day.toNat⟩

/-- The names of the days of the week. The epoch was a Thursday. -/
def weekdayNames : List String :=
  ["Thursday", "Friday", "Saturday", "Sunday", "Monday", "Tuesday",
    "Wednesday"]

/-- The day of the week of a day number. -/
def weekday (days : Int) : String :=
  weekdayNames.getD (days % 7).toNat ""

end Date

end ScriptHost
