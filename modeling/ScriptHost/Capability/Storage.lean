/-
ScriptHost.Capability.Storage — values that are kept for good.
-/
import ScriptHost.Script.Action

namespace ScriptHost

/-- The functions of `storage`. -/
inductive StorageFunction where
  | get
  | set
  deriving DecidableEq, Repr

namespace StorageFunction

variable {F : Type}

def named : List (String × StorageFunction) := [("get", get), ("set", set)]

def run : StorageFunction → List Value → Action F (List Value)
  | get, args => do
    let key ← Action.argument Argument.text args 0
    let _ ← Action.host
    pure [← Action.ofJson? ((← Action.shared).storage.get? key)]
  | set, args => do
    let key ← Action.argument Argument.text args 0
    let value ← Action.toJson (Argument.nth args 1)
    let _ ← Action.host
    Action.modifyShared (·.store key value)
    pure []

end StorageFunction

end ScriptHost
