/-
ScriptHost.Time.Clock — the host's two clocks.

One clock gives the time of day in seconds since 1970. The other only ever
goes forward and measures how long something takes; its range ends at
`Clock.limit`, so adding to it can fail (`Clock.after?`).
-/
import ScriptHost.Time.Duration

namespace ScriptHost

/-- What the clocks show. -/
structure Clock where
  /-- Seconds since 1970. -/
  unix : Int := 1700000000
  /-- Nanoseconds on the clock that only goes forward. -/
  steady : Nat := 1000000000000000

namespace Clock

/-- The steady clock ends before this many nanoseconds. -/
def limit : Nat := 0x8000000000000000 * Duration.perSecond

/-- The steady time that lies so many nanoseconds ahead, if the clock can
show it. -/
def after? (c : Clock) (nanoseconds : Nat) : Option Nat :=
  if c.steady + nanoseconds < limit then some (c.steady + nanoseconds)
  else none

/-- How long a step of a script takes. -/
def stepLength : Nat := 1000

/-- The clocks after a step of a script. -/
def tick (c : Clock) : Clock := { c with steady := c.steady + stepLength }

end Clock

end ScriptHost
