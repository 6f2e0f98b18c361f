/-
ScriptHost.Capability.Settings — single settings of the configuration.
-/
import ScriptHost.Script.Action

namespace ScriptHost

/-- The functions of `config`. -/
inductive SettingsFunction where
  | get
  deriving DecidableEq, Repr

namespace SettingsFunction

variable {F : Type}

def named : List (String × SettingsFunction) := [("get", get)]

def run : SettingsFunction → List Value → Action F (List Value)
  | get, args => do
    let path ← Action.argument Argument.text args 0
    pure [← Action.ofJson? ((← Action.host).config.lookup? path)]

end SettingsFunction

end ScriptHost
