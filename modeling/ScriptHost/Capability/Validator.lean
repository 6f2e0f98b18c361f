/-
ScriptHost.Capability.Validator — checks of what visitors type in.
-/
import ScriptHost.Digest.Otp
import ScriptHost.Script.Action
import ScriptHost.Web.FormRule

namespace ScriptHost

/-- The functions of `validator`. -/
inductive ValidatorFunction where
  | validate
  | blackList
  | validUsername
  | validGuildName
  | validGuildRank
  | validTown
  | validVocation
  | validQrToken
  deriving DecidableEq, Repr

namespace ValidatorFunction

variable {F : Type}

def named : List (String × ValidatorFunction) :=
  [("validate", validate), ("blackList", blackList),
    ("validUsername", validUsername), ("validGuildName", validGuildName),
    ("validGuildRank", validGuildRank), ("validTown", validTown),
    ("validVocation", validVocation), ("validQRToken", validQrToken)]

/-- The first argument, as a text. -/
def name (args : List Value) : Action F String :=
  Action.argument Argument.text args 0

def run : ValidatorFunction → List Value → Action F (List Value)
  | validate, args => do
    let value ← name args
    let rules ← Action.argument Argument.text args 1
    match FormRule.firstFailing? value rules with
    | some rule => pure [.bool false, .ofText rule]
    | none => pure [.bool true, .nil]
  | blackList, args => do
    let value ← name args
    let list := (← Action.host).config.blacklist
    pure [.bool (FormRule.isBlacklisted list value)]
  | validUsername, args => do
    let name ← name args
    let list := (← Action.host).config.blacklist
    pure [.bool (FormRule.isUserName name
      && !FormRule.isBlacklisted list name)]
  | validGuildName, args => do
    let name ← name args
    let list := (← Action.host).config.blacklist
    pure [.bool (FormRule.isGuildName name
      && !FormRule.isBlacklisted list name)]
  | validGuildRank, args => do
    pure [.bool (FormRule.isGuildRank (← name args))]
  | validTown, args => do
    let name ← name args
    let host ← Action.host
    pure [.bool ((host.gameData.townByName? name).isSome
      && FormRule.isAllowed host.config.newCharTowns name)]
  | validVocation, args => do
    let name ← name args
    let host ← Action.host
    pure [.bool ((host.gameData.vocationByName? name).isSome
      && FormRule.isAllowed host.config.newCharVocations name)]
  | validQrToken, args => do
    let secret ← name args
    let token ← Action.argument Argument.text args 1
    pure [.bool (Otp.verify secret token (← Action.shared).clock.unix)]

end ValidatorFunction

end ScriptHost
