/-
ScriptHost.Capability.Player — the players of the game.

A player is looked up by name or number and becomes an object of the type
`player`. The object keeps the record that was found; whether the player is
online, and what is stored for the player, is asked each time.
-/
import ScriptHost.Script.Action

namespace ScriptHost

/-- The type of players. -/
def playerType : String := "player"

/-- The global function that looks a player up. -/
def playerFactory : String := "Player"

/-- The functions of a player. -/
inductive PlayerFunction where
  | getAccountId
  | getName
  | getLevel
  | getSex
  | getBankBalance
  | getPremiumDays
  | isOnline
  | getStorageValue
  | setStorageValue
  | getVocation
  | getTown
  deriving DecidableEq, Repr

namespace PlayerFunction

variable {F : Type}

def named : List (String × PlayerFunction) :=
  [("getAccountId", getAccountId), ("getName", getName),
    ("getLevel", getLevel), ("getSex", getSex),
    ("getBankBalance", getBankBalance), ("getPremiumDays", getPremiumDays),
    ("isOnline", isOnline), ("getStorageValue", getStorageValue),
    ("setStorageValue", setStorageValue), ("getVocation", getVocation),
    ("getTown", getTown)]

/-! ## Looking up -/

/-- The integer nearest to another one that 64 bits hold. -/
def clamp (i : Int) : Int := max Word.minSigned (min Word.maxSigned i)

/-- What a value says about which player is meant. A number must be whole;
one that is too large stands for the largest number of a player. -/
def key : Value → Action F PlayerKey
  | .int id => pure (.id id.toInt)
  | .float x =>
    match x.truncate? with
    | some i =>
      if x.isIntegral then pure (.id (clamp i))
      else Action.complain (.playerKey "number")
    | none => Action.complain (.playerKey "number")
  | .str s => do pure (.name (← Action.ofExcept (Argument.utf8 "&str" s)))
  | v => Action.complain (.playerKey v.typeName)

/-- Looks a player up. -/
def find (args : List Value) : Action F (List Value) := do
  let key ← key (Argument.nth args 0)
  match ← Action.serve (.findPlayer key) with
  | some record => pure [← Action.newObject playerType (.player record)]
  | none => pure [.nil]

/-! ## Asking a player -/

/-- The player behind host state. -/
def record? : ObjectState → Option PlayerRecord
  | .player record => some record
  | _ => none

/-- The record of the object that is the first argument. -/
def record (args : List Value) : Action F PlayerRecord := do
  let object ← Action.argument Argument.table args 0
  Action.stateOf record? object

/-- The record of the object, behind its other arguments. -/
def recordOf (object : TableId) : Action F PlayerRecord :=
  Action.stateOf record? object

def run : PlayerFunction → List Value → Action F (List Value)
  | getAccountId, args => do pure [.ofInt (← record args).accountId]
  | getName, args => do pure [.ofText (← record args).name]
  | getLevel, args => do pure [.ofInt (← record args).level]
  | getSex, args => do pure [.ofInt (← record args).sex]
  | getBankBalance, args => do pure [.ofInt (← record args).balance]
  | getPremiumDays, args => do pure [.ofInt (← record args).premiumDays]
  | isOnline, args => do
    let online : Bool ← Action.serve (.isOnline (← record args).id)
    pure [.bool online]
  | getStorageValue, args => do
    let object ← Action.argument Argument.table args 0
    let key ← Action.argument (Argument.integer Argument.int64) args 1
    let stored : Option Int ←
      Action.serve (.storageValue (← recordOf object).id key)
    pure [.ofInt? stored]
  | setStorageValue, args => do
    let object ← Action.argument Argument.table args 0
    let key ← Action.argument (Argument.integer Argument.int64) args 1
    let value ← Action.argument (Argument.integer Argument.int64) args 2
    Action.serve (.setStorageValue (← recordOf object).id key value)
    pure []
  | getVocation, args => do
    let id := (← record args).vocation
    let found := (← Action.host).gameData.vocationById? id
    pure [← Action.ofJson (found.getD { id := id }).toJson]
  | getTown, args => do
    let id := (← record args).townId
    let found := (← Action.host).gameData.townById? id
    pure [← Action.ofJson (found.getD { id := id }).toJson]

end PlayerFunction

end ScriptHost
