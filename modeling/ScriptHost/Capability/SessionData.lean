/-
ScriptHost.Capability.SessionData — the session of the run's visitor.
-/
import ScriptHost.Script.Action

namespace ScriptHost

/-- The functions of `session`. -/
inductive SessionFunction where
  | isLogged
  | isAdmin
  | getFlash
  | setFlash
  | get
  | set
  | destroy
  | loggedAccount
  deriving DecidableEq, Repr

namespace SessionFunction

variable {F : Type}

def named : List (String × SessionFunction) :=
  [("isLogged", isLogged), ("isAdmin", isAdmin), ("getFlash", getFlash),
    ("setFlash", setFlash), ("get", get), ("set", set),
    ("destroy", destroy), ("loggedAccount", loggedAccount)]

/-- The session. -/
def session : Action F Session := do pure (← Action.exchange).session

/-- Changes the session. -/
def change (f : Session → Session) : Action F Unit :=
  Action.modifyExchange (Exchange.mapSession f)

def run : SessionFunction → List Value → Action F (List Value)
  | isLogged, _ => do pure [.bool (← session).isLogged]
  | isAdmin, _ => do pure [.bool (← session).isAdmin]
  | getFlash, args => do
    let key ← Action.argument Argument.text args 0
    let (message, rest) := (← session).takeFlash key
    change fun _ => rest
    pure [.ofText? message]
  | setFlash, args => do
    let key ← Action.argument Argument.text args 0
    let message ← Action.argument Argument.text args 1
    change (·.setFlash key message)
    pure []
  | get, args => do
    let key ← Action.argument Argument.text args 0
    pure [← Action.ofJson? ((← session).get? key)]
  | set, args => do
    let key ← Action.argument Argument.text args 0
    let value ← Action.toJson (Argument.nth args 1)
    change (·.set key value)
    pure []
  | destroy, _ => do
    change Session.destroy
    pure []
  | loggedAccount, _ => do
    pure [← Action.ofJson? (← session).account?]

end SessionFunction

end ScriptHost
