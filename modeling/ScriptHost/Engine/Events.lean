/-
ScriptHost.Engine.Events — time passes for scheduled events.

Events run at whole steps of time, in their turns. Each run has an instance
of its own. Without a pool an event ends instead. At one step an event may
run several times, if its interval is shorter than the step; what is
scheduled during a step is due after it. What is due at the very end of the
time that passes waits until more time passes (`advance`).
-/
import ScriptHost.Engine.Basic

namespace ScriptHost.Engine

variable {F : Type}

/-- Changes the schedulers. -/
def modifyAgenda (f : Agenda → Agenda) (e : Engine F) : Engine F :=
  { e with shared := { e.shared with agenda := f e.shared.agenda } }

/-- Sets the time of the events. -/
def setTime (time : Nat) : Engine F → Engine F :=
  modifyAgenda fun a => { a with now := time }

/-- Attaches a new scheduler. -/
def attach (e : Engine F) : Engine F :=
  e.modifyAgenda (·.attach (e.blueprint.context.services.provides .event))

/-- Cancels all events of the scheduler that can be used directly. -/
def shutdown (e : Engine F) : Engine F :=
  e.modifyAgenda fun a =>
    match a.direct? with
    | some s => a.setDirect s.shutdown
    | none => a

/-- How many events of that scheduler are active. -/
def active (e : Engine F) : Nat :=
  match e.shared.agenda.direct? with
  | some s => s.active
  | none => 0

variable [Dispatch F]

/-- Runs an event once. -/
def runEvent (job : Job) (e : Engine F) : List Run × Engine F :=
  if e.pool.isNone then ([], e.modifyAgenda (·.finish job.id))
  else
    let ((_, runs), e) := e.withInstance (runFile job.script .internal)
    (runs, e.modifyAgenda (·.postpone job.id))

/-- Is the event due once more at a step? -/
def again (time : Nat) (id : EventId) (e : Engine F) : List Job :=
  ((e.shared.agenda.job? id).filter (Agenda.isDue time)).toList

/-- Runs the events that wait for a step, at most `fuel` times. One that is
due once more waits behind the others. -/
def runWaiting (time : Nat) :
    Nat → List Job → Engine F → List Run × Engine F
  | fuel + 1, job :: waiting, e =>
    let (runs, e) := e.runEvent job
    let (later, e) := runWaiting time fuel (waiting ++ e.again time job.id) e
    (runs ++ later, e)
  | _, _, e => ([], e)

/-- More runs than there can be at one step: every event is due at most once
for every unit of time in it. -/
def stepFuel (e : Engine F) : Nat :=
  (Agenda.timerStep + 1) * e.shared.agenda.jobs.length

/-- Runs the events of a step. -/
def runStep (time : Nat) (e : Engine F) : List Run × Engine F :=
  runWaiting time e.stepFuel (e.shared.agenda.dueJobs time) e

/-- Lets time pass from `now` to a time, which is left for later. -/
def passFrom (now deadline : Nat) (e : Engine F) : List Run × Engine F :=
  let (runs, e) := e.runStep now
  match e.shared.agenda.nextTime? with
  | some time =>
    if _h : now < time ∧ time < deadline then
      let (later, e) := passFrom time deadline (e.setTime time)
      (runs ++ later, e)
    else (runs, e.setTime deadline)
  | none => (runs, e.setTime deadline)
termination_by deadline - now

/-- Lets so many milliseconds pass, and returns what has run. What is due at
their end is left for the next time; if none pass, nothing runs. -/
def advance (milliseconds : Nat) (e : Engine F) : List Run × Engine F :=
  if milliseconds = 0 then ([], e)
  else
    let now := e.shared.agenda.now
    e.passFrom now (now + Agenda.timerStep * milliseconds)

/-- Schedules an event directly. -/
def schedule (interval : Nat) (script : String) (e : Engine F) :
    Except HostError EventId × Engine F :=
  let agenda := e.shared.agenda
  match agenda.direct? with
  | none => (.error (.fault (.unavailable .event)), e)
  | some s =>
    match agenda.scheduleOn s interval script with
    | .ok (id, s, agenda) =>
      (.ok id, e.modifyAgenda fun _ => agenda.setDirect s)
    | .error fault => (.error (.fault fault), e)

/-- Cancels an event directly, and says whether it was active. -/
def cancel (event : EventId) (e : Engine F) : Bool × Engine F :=
  match e.shared.agenda.direct? with
  | none => (false, e)
  | some s =>
    let (found, s) := s.cancel event
    (found, e.modifyAgenda (·.setDirect s))

end ScriptHost.Engine
