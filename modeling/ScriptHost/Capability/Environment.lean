/-
ScriptHost.Capability.Environment — the variables of the environment.
-/
import ScriptHost.Script.Action

namespace ScriptHost

/-- The functions of `env`. -/
inductive EnvironmentFunction where
  | get
  | set
  deriving DecidableEq, Repr

namespace EnvironmentFunction

variable {F : Type}

def named : List (String × EnvironmentFunction) :=
  [("get", get), ("set", set)]

/-- The character that no name and no value may hold. -/
def zero : Char := '\x00'

/-- Can it be the name of a variable? -/
def isName (name : String) : Bool :=
  name ≠ "" && !name.toList.contains '=' && !name.toList.contains zero

/-- Can it be the value of a variable? -/
def isValue (value : String) : Bool := !value.toList.contains zero

def run : EnvironmentFunction → List Value → Action F (List Value)
  | get, args => do
    let name ← Action.argument Argument.text args 0
    pure [.ofText? ((← Action.shared).environment.get? name)]
  | set, args => do
    let name ← Action.argument Argument.text args 0
    let value ← Action.argument Argument.text args 1
    if isName name && isValue value then
      Action.modifyShared fun s =>
        { s with environment := s.environment.insert name value }
      pure []
    else Action.complain (.variableName name)

end EnvironmentFunction

end ScriptHost
