/-
ScriptHost.Script.Call — calling the functions of an interpreter.

A function is found by name: in a global table, in the class table of an
object type, through an object, or as a global itself. `Dispatch` says what
the host's own functions do.
-/
import ScriptHost.Script.Action

namespace ScriptHost

/-- What functions that a host offers do with their arguments. -/
class Dispatch (F : Type) where
  run : F → List Value → Action F (List Value)

namespace Action

variable {F : Type}

/-- Calls what a function of an interpreter stands for. -/
def invoke [Dispatch F] : Callable F → List Value → Action F (List Value)
  | .member name f, args => do
    Dispatch.run f ((← interpreter).stripNamespace name args)
  | .plain f, args => Dispatch.run f args
  | .reserved name, _ => complain (.reserved name)
  | .inert, _ => pure []

end Action

namespace Interpreter

variable {F : Type}

/-- The function that a value is. -/
def callable? (i : Interpreter F) : Value → Option (Callable F)
  | .func id => some (i.callable id)
  | _ => none

/-- The function under a name in a value that is a table. -/
def fieldCallable? (i : Interpreter F) (v : Value) (name : String) :
    Option (Callable F) :=
  match v with
  | .table id => i.callable? (i.index id (.ofText name))
  | _ => none

/-- The function under a name in the class table of an object type. -/
def classCallable? (i : Interpreter F) (className name : String) :
    Option (Callable F) := do
  let id ← i.classes.get? className
  i.fieldCallable? (.table id) name

/-- Follows a row of keys from a value, without looking at class tables. -/
def rawPath (i : Interpreter F) (v : Value) (path : List Value) : Value :=
  path.foldl i.heap.rawGet v

/-- Writes a value behind a row of keys. Nothing happens if there is no
table to write into. -/
def writePath (i : Interpreter F) (root : Value) (path : List Value)
    (v : Value) : Interpreter F :=
  match path.getLast? with
  | some key =>
    match i.rawPath root path.dropLast with
    | .table id => i.modifyTable id (·.set key v)
    | _ => i
  | none => i

end Interpreter

end ScriptHost
