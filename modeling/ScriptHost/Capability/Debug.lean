/-
ScriptHost.Capability.Debug — values as readable text.
-/
import ScriptHost.Json.Text
import ScriptHost.Script.Action

namespace ScriptHost

/-- The functions of `debug`. -/
inductive DebugFunction where
  | value
  deriving DecidableEq, Repr

namespace DebugFunction

variable {F : Type}

def named : List (String × DebugFunction) := [("value", value)]

/-- A text as it is, data as indented JSON, and the type of anything
else. -/
def describe (heap : Heap) : Value → String
  | .str s => Utf8.lossy s
  | v =>
    match heap.toJson v with
    | .ok j => j.pretty
    | .error _ => s!"<{v.typeName}>"

def run : DebugFunction → List Value → Action F (List Value)
  | value, args => do
    let heap := (← Action.interpreter).heap
    pure [.ofText (describe heap (Argument.nth args 0))]

end DebugFunction

end ScriptHost
