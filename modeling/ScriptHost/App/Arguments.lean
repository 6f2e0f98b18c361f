/-
ScriptHost.App.Arguments — the command line.

`-c` or `--config` names the configuration file; everything else that does
not begin with a hyphen is a script. A hyphen alone is a script, too.
-/

namespace ScriptHost

/-- What the command line says. -/
structure Arguments where
  config : Option String := none
  scripts : List String := []
  deriving DecidableEq, Repr

/-- What can be wrong with the command line. -/
inductive ArgumentError where
  | pathMissing (option : String)
  | unknownOption (option : String)
  deriving DecidableEq, Repr

namespace ArgumentError

/-- The wording of an error. -/
def message : ArgumentError → String
  | pathMissing option => s!"{option} requires a path"
  | unknownOption option => s!"unknown option: {option}"

end ArgumentError

namespace Arguments

/-- The options that name the configuration file. -/
def configOptions : List String := ["-c", "--config"]

/-- Does the text look like an option? -/
def isOption (arg : String) : Bool :=
  match arg.toList with
  | '-' :: _ :: _ => true
  | _ => false

/-- Reads arguments, given what those before them said. -/
def readFrom (done : Arguments) :
    List String → Except ArgumentError Arguments
  | [] => .ok done
  | [arg] =>
    if configOptions.contains arg then .error (.pathMissing arg)
    else if isOption arg then .error (.unknownOption arg)
    else .ok { done with scripts := done.scripts ++ [arg] }
  | arg :: next :: rest =>
    if configOptions.contains arg then
      readFrom { done with config := some next } rest
    else if isOption arg then .error (.unknownOption arg)
    else
      readFrom { done with scripts := done.scripts ++ [arg] } (next :: rest)

/-- Reads the command line. -/
def read (args : List String) : Except ArgumentError Arguments :=
  readFrom {} args

end Arguments

end ScriptHost
