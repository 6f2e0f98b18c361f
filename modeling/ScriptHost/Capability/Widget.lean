/-
ScriptHost.Capability.Widget — parts of pages, drawn by the template
service.
-/
import ScriptHost.Script.Action

namespace ScriptHost

/-- The functions of `widget`. -/
inductive WidgetFunction where
  | render
  deriving DecidableEq, Repr

namespace WidgetFunction

variable {F : Type}

def named : List (String × WidgetFunction) := [("render", render)]

def run : WidgetFunction → List Value → Action F (List Value)
  | render, args => do
    let name ← Action.argument Argument.text args 0
    let data ← Action.toJson (Argument.nth args 1)
    let text ← Action.serve (.renderWidget name data)
    pure [.ofText text]

end WidgetFunction

end ScriptHost
