/-
ScriptHost.Capability.FileInfo — what there is to know about files.
-/
import ScriptHost.Script.Action

namespace ScriptHost

/-- The functions of `file`. -/
inductive FileFunction where
  | modified
  | doesExist
  deriving DecidableEq, Repr

namespace FileFunction

variable {F : Type}

def named : List (String × FileFunction) :=
  [("mod", modified), ("exists", doesExist)]

def run : FileFunction → List Value → Action F (List Value)
  | modified, args => do
    let path ← Action.argument Argument.text args 0
    let files := (← Action.shared).files
    match files.find path with
    | .ok _ => pure [.ofInt files.modified]
    | .error fault => Action.complain (.fileStat path fault)
  | doesExist, args => do
    let path ← Action.argument Argument.text args 0
    pure [.bool ((← Action.shared).files.doesExist path)]

end FileFunction

end ScriptHost
