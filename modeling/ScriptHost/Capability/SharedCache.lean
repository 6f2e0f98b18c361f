/-
ScriptHost.Capability.SharedCache — values that all interpreters share for a
while.
-/
import ScriptHost.Script.Action

namespace ScriptHost

/-- The functions of `cache`. -/
inductive CacheFunction where
  | get
  | set
  | delete
  deriving DecidableEq, Repr

namespace CacheFunction

variable {F : Type}

def named : List (String × CacheFunction) :=
  [("get", get), ("set", set), ("delete", delete)]

/-- The length of time that an argument gives, in nanoseconds. -/
def lifetime (seconds : Option Binary64) : Action F (Option Nat) :=
  match seconds with
  | none => pure none
  | some x => do
    pure (some (← Action.ofOption .cacheExpiry (Duration.ofSeconds? x)))

/-- When an entry of a lifetime expires. A time that the clock cannot show
is the end of the run. -/
def expiry (lifetime : Option Nat) : Action F (Option Nat) :=
  match lifetime with
  | none => pure none
  | some ns => do
    match (← Action.shared).clock.after? ns with
    | some time => pure (some time)
    | none => Action.panic

/-- The lifetime is read before the value, and the clock after both. -/
def run : CacheFunction → List Value → Action F (List Value)
  | get, args => do
    let key ← Action.argument Argument.text args 0
    let _ ← Action.host
    let shared ← Action.shared
    pure [← Action.ofJson? (shared.cache.get? shared.clock.steady key)]
  | set, args => do
    let key ← Action.argument Argument.text args 0
    let seconds ← Action.argument (Argument.optional Argument.float) args 2
    let lifetime ← lifetime seconds
    let value ← Action.toJson (Argument.nth args 1)
    let _ ← Action.host
    let expiry ← expiry lifetime
    Action.modifyShared fun s =>
      { s with cache := s.cache.set key value expiry }
    pure []
  | delete, args => do
    let key ← Action.argument Argument.text args 0
    let _ ← Action.host
    let (found, cache) := (← Action.shared).cache.delete key
    Action.modifyShared fun s => { s with cache := cache }
    pure [.bool found]

end CacheFunction

end ScriptHost
