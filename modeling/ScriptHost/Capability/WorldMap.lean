/-
ScriptHost.Capability.WorldMap — the towns and houses of the game world.
-/
import ScriptHost.Script.Action

namespace ScriptHost

/-- The functions of `map`. -/
inductive MapFunction where
  | houseList
  | townList
  | townById
  | townByName
  deriving DecidableEq, Repr

namespace MapFunction

variable {F : Type}

def named : List (String × MapFunction) :=
  [("houseList", houseList), ("townList", townList),
    ("townByID", townById), ("townByName", townByName)]

/-- The game world. -/
def gameData : Action F GameData := do pure (← Action.host).gameData

def run : MapFunction → List Value → Action F (List Value)
  | houseList, args => do
    let townId ← Action.argument
      (Argument.optional (Argument.integer Argument.int64)) args 0
    let houses := (← gameData).housesIn townId
    pure [← Action.ofJson (.arr (houses.map House.toJson))]
  | townList, _ => do
    pure [← Action.ofJson (.arr ((← gameData).towns.map Town.toJson))]
  | townById, args => do
    let id ← Action.argument (Argument.integer Argument.int64) args 0
    pure [← Action.ofJson? (((← gameData).townById? id).map Town.toJson)]
  | townByName, args => do
    let name ← Action.argument Argument.text args 0
    pure [← Action.ofJson? (((← gameData).townByName? name).map Town.toJson)]

end MapFunction

end ScriptHost
