/-
ScriptHost.Host.GameData — the game world that scripts may ask about.

Towns, houses and vocations, each found by number or by name. A name is
found in any case of its ASCII letters; of several records the first one
counts.
-/
import ScriptHost.Json.Decode
import ScriptHost.Text.Character

namespace ScriptHost

/-- A town. -/
structure Town where
  id : Int
  name : String := ""
  deriving DecidableEq, Repr

/-- A house in a town. -/
structure House where
  id : Int
  name : String
  townId : Int
  size : Int
  rent : Int
  deriving DecidableEq, Repr

/-- A vocation of players. -/
structure Vocation where
  id : Int
  name : String := ""
  description : String := ""
  deriving DecidableEq, Repr

/-- The game world. -/
structure GameData where
  towns : List Town := []
  houses : List House := []
  vocations : List Vocation := []

namespace GameData

def townById? (d : GameData) (id : Int) : Option Town :=
  d.towns.find? (·.id = id)

def townByName? (d : GameData) (name : String) : Option Town :=
  d.towns.find? (sameIgnoringCase ·.name name)

def vocationById? (d : GameData) (id : Int) : Option Vocation :=
  d.vocations.find? (·.id = id)

def vocationByName? (d : GameData) (name : String) : Option Vocation :=
  d.vocations.find? (sameIgnoringCase ·.name name)

/-- The houses of a town, or all of them. -/
def housesIn (d : GameData) (townId : Option Int) : List House :=
  d.houses.filter fun house =>
    match townId with
    | some id => house.townId = id
    | none => true

end GameData

/-! ## Records as data -/

def Town.toJson (t : Town) : Json :=
  .ofPairs [("id", .int t.id), ("name", .str t.name)]

def House.toJson (h : House) : Json :=
  .ofPairs [("id", .int h.id), ("name", .str h.name),
    ("town_id", .int h.townId), ("size", .int h.size), ("rent", .int h.rent)]

def Vocation.toJson (v : Vocation) : Json :=
  .ofPairs [("id", .int v.id), ("name", .str v.name),
    ("description", .str v.description)]

open Json.Decode

def Town.decode : Json.Decoder Town := fun j => do
  match ← slots true ["id", "name"] j with
  | [id, name] =>
    pure { id := ← required int64 id, name := ← required text name }
  | _ => none

def House.decode : Json.Decoder House := fun j => do
  match ← slots true ["id", "name", "town_id", "size", "rent"] j with
  | [id, name, townId, size, rent] =>
    pure {
      id := ← required int64 id
      name := ← required text name
      townId := ← required int64 townId
      size := ← required int64 size
      rent := ← required int64 rent }
  | _ => none

def Vocation.decode : Json.Decoder Vocation := fun j => do
  match ← slots true ["id", "name", "description"] j with
  | [id, name, description] =>
    pure {
      id := ← required int64 id
      name := ← required text name
      description := ← required text description }
  | _ => none

def GameData.decode : Json.Decoder GameData := fun j => do
  match ← slots true ["towns", "houses", "vocations"] j with
  | [towns, houses, vocations] =>
    pure {
      towns := ← required (list Town.decode) towns
      houses := ← required (list House.decode) houses
      vocations := ← required (list Vocation.decode) vocations }
  | _ => none

end ScriptHost
