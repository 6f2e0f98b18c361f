/-
ScriptHost.Web.Session — what is remembered of a visitor.

A session holds values and flash messages by key. A flash message is read
once: `takeFlash` returns it and removes it. Setting null removes a value.
Destroying a session empties it and marks it for good.
-/
import ScriptHost.Json.Decode

namespace ScriptHost

/-- The data of a visitor. -/
structure Session where
  values : KeyMap Json := ∅
  flash : KeyMap String := ∅
  destroyed : Bool := false
  deriving Inhabited

namespace Session

/-- Keys with a fixed meaning. -/
def loggedKey : String := "logged"
def adminKey : String := "admin"
def accountKey : String := "account"

/-- The value under a key. -/
def get? (s : Session) (key : String) : Option Json := s.values.get? key

/-- Writes a value; null removes the key. -/
def set (s : Session) (key : String) (value : Json) : Session :=
  if value.isNull then { s with values := s.values.erase key }
  else { s with values := s.values.insert key value }

/-- Leaves a message that can be read once. -/
def setFlash (s : Session) (key message : String) : Session :=
  { s with flash := s.flash.insert key message }

/-- Reads a message and removes it. -/
def takeFlash (s : Session) (key : String) : Option String × Session :=
  (s.flash.get? key, { s with flash := s.flash.erase key })

/-- Empties the session and marks it. -/
def destroy (_ : Session) : Session :=
  { values := ∅, flash := ∅, destroyed := true }

/-- Is a key set to true? -/
def flag (s : Session) (key : String) : Bool :=
  (s.get? key).bind Json.bool? = some true

/-- Is an account logged in? -/
def isLogged (s : Session) : Bool := s.flag loggedKey

/-- Has the account that is logged in all rights? -/
def isAdmin (s : Session) : Bool := s.isLogged && s.flag adminKey

/-- The account that is logged in. -/
def account? (s : Session) : Option Json :=
  if s.isLogged then s.get? accountKey else none

/-- The session as data. -/
def toJson (s : Session) : Json :=
  .ofPairs [("values", .ofMap s.values),
    ("flash", .obj (s.flash.entries.map fun (k, v) => (k, .str v))),
    ("destroyed", .bool s.destroyed)]

/-- Any data at all. -/
def anyData : Json.Decoder Json := some

/-- A session from data. -/
def decode : Json.Decoder Session := fun j => do
  match ← Json.Decode.slots true ["values", "flash", "destroyed"] j with
  | [values, flash, destroyed] =>
    pure {
      values := ← Json.Decode.required (Json.Decode.map anyData) values
      flash := ← Json.Decode.required (Json.Decode.map Json.Decode.text) flash
      destroyed := ← Json.Decode.required Json.Decode.bool destroyed }
  | _ => none

end Session

end ScriptHost
