/-
ScriptHost.Capability.Sample — small functions to try a host out with.

They return their arguments, add, greet, measure, fail, and switch a lamp,
the smallest object there is.
-/
import ScriptHost.Script.Action

namespace ScriptHost

/-- Small functions to try a host out with. -/
inductive SampleFunction where
  | echo
  | add
  | greet
  | size
  /-- Always fails, and says what. -/
  | failing (name : String)
  | toggle
  | isLit
  /-- Makes a lamp that is an object of the type. -/
  | newLamp (className : String)
  deriving DecidableEq, Repr

namespace SampleFunction

variable {F : Type}

/-- The lamp behind host state. -/
def lamp? : ObjectState → Option Bool
  | .lamp lit => some lit
  | _ => none

def run : SampleFunction → List Value → Action F (List Value)
  | echo, args => pure args
  | add, args => do
    let x ← Action.argument (Argument.integer Argument.int64) args 0
    let y ← Action.argument (Argument.integer Argument.int64) args 1
    pure [.int (Int64.ofInt x + Int64.ofInt y)]
  | greet, args => do
    pure [.ofText ("hello " ++ (← Action.argument Argument.text args 0))]
  | size, args => do
    let id ← Action.argument Argument.table args 0
    pure [.ofInt ((← Action.interpreter).table id).border]
  | failing name, _ => Action.fail (.service (name ++ " failed"))
  | toggle, args => do
    let object ← Action.argument Argument.table args 0
    let lit ← Action.stateOf lamp? object
    Action.setState object (.lamp !lit)
    pure [.bool !lit]
  | isLit, args => do
    let object ← Action.argument Argument.table args 0
    pure [.bool (← Action.stateOf lamp? object)]
  | newLamp className, args => do
    let lit := (Argument.nth args 0).truthy
    pure [← Action.newObject className (.lamp lit)]

end SampleFunction

end ScriptHost
