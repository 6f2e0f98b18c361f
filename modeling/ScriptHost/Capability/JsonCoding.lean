/-
ScriptHost.Capability.JsonCoding — values as JSON text, and back.
-/
import ScriptHost.Json.Text
import ScriptHost.Script.Action

namespace ScriptHost

/-- The functions of `json`. -/
inductive JsonFunction where
  | marshal
  | unmarshal
  deriving DecidableEq, Repr

namespace JsonFunction

variable {F : Type}

def named : List (String × JsonFunction) :=
  [("marshal", marshal), ("unmarshal", unmarshal)]

def run : JsonFunction → List Value → Action F (List Value)
  | marshal, args => do
    let j ← Action.toJson (Argument.nth args 0)
    pure [.ofText j.render]
  | unmarshal, args => do
    let text ← Action.argument Argument.text args 0
    let j ← Action.ofOption .jsonText (Json.parse? text)
    pure [← Action.ofJson j]

end JsonFunction

end ScriptHost
