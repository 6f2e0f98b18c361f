/-
ScriptHost.Capability.Time — points and lengths of time.
-/
import ScriptHost.Script.Action
import ScriptHost.Time.Duration
import ScriptHost.Time.Instant

namespace ScriptHost

/-- The functions of `time`. -/
inductive TimeFunction where
  | parseUnix
  | parseDuration
  deriving DecidableEq, Repr

namespace TimeFunction

variable {F : Type}

def named : List (String × TimeFunction) :=
  [("parseUnix", parseUnix), ("parseDuration", parseDuration)]

/-- Ends because a text is no length of time. -/
def refuse {α : Type} (text : String) : Duration.Refusal → Action F α
  | .malformed => Action.complain (.duration text)
  | .split => Action.panic

def run : TimeFunction → List Value → Action F (List Value)
  | parseUnix, args => do
    let seconds ← Action.argument (Argument.integer Argument.int64) args 0
    match Instant.ofUnix? seconds with
    | some instant => pure [← Action.ofJson instant.toJson]
    | none => Action.complain (.timestamp seconds)
  | parseDuration, args => do
    let text ← Action.argument Argument.text args 0
    match Duration.read text with
    | .ok seconds => pure [.float seconds]
    | .error e => refuse text e

end TimeFunction

end ScriptHost
