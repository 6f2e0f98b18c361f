/-
ScriptHost.Capability.Event — scripts that run again and again.

Scheduling gives a script an object of the type `event`, which can stop what
was scheduled.
-/
import ScriptHost.Script.Action
import ScriptHost.Time.Duration

namespace ScriptHost

/-- The type of scheduled events. -/
def eventType : String := "event"

/-- The functions of `events`. -/
inductive EventsFunction where
  | add
  deriving DecidableEq, Repr

/-- The functions of an event. -/
inductive EventFunction where
  | stop
  deriving DecidableEq, Repr

variable {F : Type}

namespace EventsFunction

def named : List (String × EventsFunction) := [("add", add)]

def run : EventsFunction → List Value → Action F (List Value)
  | add, args => do
    let seconds ← Action.argument Argument.float args 0
    let script ← Action.argument Argument.text args 1
    let interval ← Action.ofOption .eventInterval
      (Duration.ofSeconds? seconds)
    let id ← Action.schedule interval script
    pure [← Action.newObject eventType (.event id)]

end EventsFunction

namespace EventFunction

def named : List (String × EventFunction) := [("stop", stop)]

/-- The event behind host state. -/
def event? : ObjectState → Option EventId
  | .event id => some id
  | _ => none

def run : EventFunction → List Value → Action F (List Value)
  | stop, args => do
    let object ← Action.argument Argument.table args 0
    let id ← Action.stateOf event? object
    pure [.bool (← Action.cancel id)]

end EventFunction

end ScriptHost
