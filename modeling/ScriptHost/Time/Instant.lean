/-
ScriptHost.Time.Instant — points in time by date and clock.

`Instant.ofUnix?` breaks the seconds since 1970 down into a date of the
calendar and a time of the day, for all years that dates are kept for.
-/
import ScriptHost.Json.Basic
import ScriptHost.Number.Decimal
import ScriptHost.Time.Civil

namespace ScriptHost

/-- A point in time. -/
structure Instant where
  date : Date
  hour : Nat
  minute : Nat
  second : Nat
  weekday : String
  deriving DecidableEq, Repr

namespace Instant

/-- The seconds of a day. -/
def dayLength : Int := 86400

/-- The point in time so many seconds after the start of 1970. -/
def ofUnix? (seconds : Int) : Option Instant :=
  let days := seconds / dayLength
  let rest := (seconds % dayLength).toNat
  let date := Date.ofDays days
  if date.isValid then
    some { date := date
           hour := rest / 3600
           minute := rest / 60 % 60
           second := rest % 60
           weekday := Date.weekday days }
  else none

/-- A year in at least four digits. Years beyond those have a sign. -/
def yearText (year : Int) : String :=
  let digits := Decimal.padded 4 year.natAbs
  if year < 0 then "-" ++ digits
  else if 9999 < year then "+" ++ digits
  else digits

/-- A number in at least two digits. -/
def twoDigits (n : Nat) : String := Decimal.padded 2 n

/-- The date and the time of the day. -/
def text (i : Instant) : String :=
  yearText i.date.year ++ "-" ++ twoDigits i.date.month ++ "-"
    ++ twoDigits i.date.day ++ " " ++ twoDigits i.hour ++ ":"
    ++ twoDigits i.minute ++ ":" ++ twoDigits i.second

/-- The point in time as data. -/
def toJson (i : Instant) : Json :=
  .ofPairs [("year", .int i.date.year), ("month", .int i.date.month),
    ("day", .int i.date.day), ("hour", .int i.hour),
    ("minute", .int i.minute), ("second", .int i.second),
    ("weekday", .str i.weekday), ("result", .str i.text)]

end Instant

end ScriptHost
