/-
ScriptHost.Host.Scheduler — events that run a script again and again.

A `Scheduler` holds its active jobs. A job runs one interval after it was
scheduled and then after every further interval, until it is cancelled. Jobs
run at whole steps of time, and those of one step in the order in which they
began to wait for it. An `Agenda` holds the schedulers of a host: the first
one that is attached serves the scripts for good, and the latest one can be
used directly.
-/
import ScriptHost.Host.Service
import ScriptHost.Time.Clock

namespace ScriptHost

/-- An active event. -/
structure Job where
  id : EventId
  /-- Nanoseconds between two runs. -/
  interval : Nat
  script : String
  /-- When it runs next, in nanoseconds. -/
  due : Nat
  /-- Its place among the jobs of one step: it grows with every wait. -/
  turn : Nat
  deriving DecidableEq, Repr

/-- The active events, oldest first. -/
structure Scheduler where
  jobs : List Job := []

namespace Scheduler

/-- Adds an event. -/
def add (s : Scheduler) (job : Job) : Scheduler := ⟨s.jobs ++ [job]⟩

/-- Is the event active? -/
def isActive (s : Scheduler) (id : EventId) : Bool :=
  s.jobs.any (·.id = id)

/-- Takes an event out. -/
def remove (s : Scheduler) (id : EventId) : Scheduler :=
  ⟨s.jobs.filter (·.id ≠ id)⟩

/-- Cancels an event, and says whether it was active. -/
def cancel (s : Scheduler) (id : EventId) : Bool × Scheduler :=
  (s.isActive id, s.remove id)

/-- How many events are active. -/
def active (s : Scheduler) : Nat := s.jobs.length

/-- Cancels every event. -/
def shutdown (_ : Scheduler) : Scheduler := {}

/-- Changes an event. -/
def update (s : Scheduler) (id : EventId) (f : Job → Job) : Scheduler :=
  ⟨s.jobs.map fun job => if job.id = id then f job else job⟩

end Scheduler

/-- The schedulers of a host. -/
structure Agenda where
  /-- The scheduler that serves the scripts, if one was attached. -/
  first : Option Scheduler := none
  /-- The latest scheduler, if it is another one. -/
  latest : Option Scheduler := none
  /-- The identity of the next event. -/
  nextId : EventId := 0
  /-- The place of the next job that begins to wait. -/
  nextTurn : Nat := 0
  /-- The time that has passed for the events, in nanoseconds. -/
  now : Nat := 0
  /-- Is there something that can run events at all? -/
  hasRuntime : Bool := false

namespace Agenda

/-- Timers go off at whole steps of so many nanoseconds. -/
def timerStep : Nat := 1000000

/-- The first whole step that is not before a time. -/
def roundUp (time : Nat) : Nat :=
  timerStep * ((time + timerStep - 1) / timerStep)

/-- An event whose time the clock cannot show is put off by thirty years. -/
def farFuture : Nat := 30 * 365 * 86400 * Duration.perSecond

/-- The time that lies one interval behind another. -/
def dueAfter (a : Agenda) (time interval : Nat) : Nat :=
  if time + interval < Clock.limit then time + interval
  else a.now + farFuture

/-- Attaches a new scheduler. The first one serves the scripts, unless the
host has a service of its own for that; a later one takes the place of the
latest, whose events end with it. -/
def attach (a : Agenda) (hasService : Bool) : Agenda :=
  if hasService || a.first.isSome then { a with latest := some {} }
  else { a with first := some {} }

/-- Adds an event to a scheduler. -/
def scheduleOn (a : Agenda) (s : Scheduler) (interval : Nat)
    (script : String) : Except HostFault (EventId × Scheduler × Agenda) :=
  if interval = 0 then
    .error (.service "event interval must be greater than zero")
  else if !a.hasRuntime then
    .error (.service "events require a running tokio runtime")
  else
    let job : Job :=
      { id := a.nextId
        interval := interval
        script := script
        due := a.dueAfter a.now interval
        turn := a.nextTurn }
    .ok (a.nextId, s.add job,
      { a with nextId := a.nextId + 1, nextTurn := a.nextTurn + 1 })

/-- Schedules an event for a script. -/
def schedule (a : Agenda) (interval : Nat) (script : String) :
    Except HostFault (EventId × Agenda) :=
  match a.first with
  | none => .error (.unavailable .event)
  | some s => do
    let (id, s, a) ← a.scheduleOn s interval script
    pure (id, { a with first := some s })

/-- Cancels an event for a script. -/
def cancel (a : Agenda) (id : EventId) :
    Except HostFault (Bool × Agenda) :=
  match a.first with
  | none => .error (.unavailable .event)
  | some s =>
    let (found, s) := s.cancel id
    .ok (found, { a with first := some s })

/-- The scheduler that can be used directly. -/
def direct? (a : Agenda) : Option Scheduler := a.latest <|> a.first

/-- Replaces the scheduler that can be used directly. -/
def setDirect (a : Agenda) (s : Scheduler) : Agenda :=
  if a.latest.isSome then { a with latest := some s }
  else { a with first := some s }

/-- All schedulers. -/
def schedulers (a : Agenda) : List Scheduler :=
  a.first.toList ++ a.latest.toList

/-- All active events. -/
def jobs (a : Agenda) : List Job := a.schedulers.flatMap Scheduler.jobs

/-- The active event with an identity. -/
def job? (a : Agenda) (id : EventId) : Option Job :=
  a.jobs.find? (·.id = id)

/-- Does a job run at a time or before it? -/
def isDue (time : Nat) (job : Job) : Bool := roundUp job.due ≤ time

/-- The jobs that run at a time, in their order. -/
def dueJobs (a : Agenda) (time : Nat) : List Job :=
  (a.jobs.filter (isDue time)).mergeSort (·.turn ≤ ·.turn)

/-- The next whole step at which a job runs. -/
def nextTime? (a : Agenda) : Option Nat :=
  (a.jobs.map fun job => roundUp job.due).min?

/-- Changes all schedulers. -/
def mapSchedulers (a : Agenda) (f : Scheduler → Scheduler) : Agenda :=
  { a with first := a.first.map f, latest := a.latest.map f }

/-- Puts an event off by its interval, behind all that wait already. -/
def postpone (a : Agenda) (id : EventId) : Agenda :=
  let put (job : Job) : Job :=
    { job with due := a.dueAfter job.due job.interval, turn := a.nextTurn }
  { a.mapSchedulers (·.update id put) with nextTurn := a.nextTurn + 1 }

/-- Takes an event out that has ended. -/
def finish (a : Agenda) (id : EventId) : Agenda :=
  a.mapSchedulers (·.remove id)

end Agenda

end ScriptHost
