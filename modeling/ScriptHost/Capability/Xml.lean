/-
ScriptHost.Capability.Xml — the vocations of the game world, and XML text.
-/
import ScriptHost.Capability.XmlValue
import ScriptHost.Script.Action
import ScriptHost.Xml.Tree

namespace ScriptHost

/-- The functions of `xml`. -/
inductive XmlFunction where
  | vocationList
  | vocationByName
  | vocationById
  | marshal
  | unmarshal
  | unmarshalFile
  deriving DecidableEq, Repr

namespace XmlFunction

variable {F : Type}

def named : List (String × XmlFunction) :=
  [("vocationList", vocationList), ("vocationByName", vocationByName),
    ("vocationByID", vocationById), ("marshal", marshal),
    ("unmarshal", unmarshal), ("unmarshalFile", unmarshalFile)]

/-- The game world. -/
def gameData : Action F GameData := do pure (← Action.host).gameData

/-- The error that a script sees when a text is no document. -/
def refusal : XmlError → ScriptError
  | .malformed => .markup
  | .secondRoot => .complaint .xmlSecondRoot
  | .noRoot => .complaint .xmlNoRoot
  | .notClosed name => .complaint (.xmlOpen name)

/-- Reads a document. -/
def read (source : String) : Action F Value :=
  match Xml.read source with
  | .ok node => Action.ofJson node.toJson
  | .error e => Action.raise (refusal e)

/-- The element that a value gives. -/
def nodeOf (v : Value) : Action F XmlNode := do
  match ((← Action.interpreter).heap.unfold v).asNode with
  | .ok node => pure node
  | .error e => Action.raise (.data e)

def run : XmlFunction → List Value → Action F (List Value)
  | vocationList, _ => do
    let vocations := (← gameData).vocations
    pure [← Action.ofJson (.arr (vocations.map Vocation.toJson))]
  | vocationByName, args => do
    let name ← Action.argument Argument.text args 0
    let found := (← gameData).vocationByName? name
    pure [← Action.ofJson? (found.map Vocation.toJson)]
  | vocationById, args => do
    let id ← Action.argument (Argument.integer Argument.int64) args 0
    let found := (← gameData).vocationById? id
    pure [← Action.ofJson? (found.map Vocation.toJson)]
  | marshal, args => do
    let node ← nodeOf (Argument.nth args 0)
    let chars ← Action.ofOption .xmlNameless node.write?
    pure [.ofText (String.ofList chars)]
  | unmarshal, args => do
    let source ← Action.argument Argument.text args 0
    pure [← read source]
  | unmarshalFile, args => do
    let path ← Action.argument Argument.text args 0
    match (← Action.shared).files.readText path with
    | .ok source => pure [← read source]
    | .error fault => Action.complain (.xmlRead path fault)

end XmlFunction

end ScriptHost
