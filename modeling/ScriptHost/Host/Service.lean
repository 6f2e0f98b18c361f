/-
ScriptHost.Host.Service — what scripts ask the host's services for.

A `ServiceCall` is one question, and `ServiceCall.Reply` says which type its
answer has. `Services` is a set of services: what is there, and how each
question is answered, given everything that was asked before. So a service
may have a memory, and the same history always leads to the same answer.
-/
import ScriptHost.Host.Fault
import ScriptHost.Host.GameData

namespace ScriptHost

/-! ## Data of the services -/

/-- A row of a query, by column name. -/
abbrev Row := KeyMap Json

/-- What a statement without rows has done. -/
structure ExecResult where
  rowsAffected : Nat := 0
  lastInsertId : Option Int := none
  deriving DecidableEq, Repr, Inhabited

/-- An outbound mail. -/
structure Mail where
  recipients : List String
  subject : String
  body : String
  deriving DecidableEq, Repr

/-- A text drawn on an image. -/
structure TextSpec where
  text : String
  x : Int
  y : Int
  size : Binary64
  color : String
  deriving DecidableEq, Repr

/-- An image as a script describes it. -/
structure ImageSpec where
  width : Nat
  height : Nat
  background : Option String := none
  texts : List TextSpec := []
  deriving DecidableEq, Repr

/-- How a script names a player. -/
inductive PlayerKey where
  | id (id : Int)
  | name (name : String)
  deriving DecidableEq, Repr

/-- A player as the game server stores it. -/
structure PlayerRecord where
  id : Int
  name : String
  accountId : Int
  level : Int
  vocation : Int
  townId : Int
  sex : Int
  balance : Int
  premiumDays : Int
  deriving DecidableEq, Repr

/-- The identity of a scheduled event. -/
abbrev EventId := Nat

/-! ## Questions and answers -/

/-- One question to a service. -/
inductive ServiceCall where
  | query (sql : String) (args : List Json)
  | execute (sql : String) (args : List Json)
  | renderPage (name : String) (data : Json)
  | renderWidget (name : String) (data : Json)
  | sendMail (mail : Mail)
  | createPayment (payment : Json)
  | paymentInformation (id : String)
  | executePayment (id payer : String)
  | verifyCaptcha (secret response : String) (remoteAddr : Option String)
  | saveImage (image : ImageSpec) (path : String)
  | findPlayer (key : PlayerKey)
  | isOnline (player : Int)
  | storageValue (player key : Int)
  | setStorageValue (player key value : Int)
  | schedule (nanoseconds : Nat) (script : String)
  | cancel (event : EventId)

namespace ServiceCall

/-- The service that a question goes to. -/
def kind : ServiceCall → ServiceKind
  | query .. => .database
  | execute .. => .database
  | renderPage .. => .template
  | renderWidget .. => .template
  | sendMail .. => .mail
  | createPayment .. => .payment
  | paymentInformation .. => .payment
  | executePayment .. => .payment
  | verifyCaptcha .. => .captcha
  | saveImage .. => .image
  | findPlayer .. => .player
  | isOnline .. => .player
  | storageValue .. => .player
  | setStorageValue .. => .player
  | schedule .. => .event
  | cancel .. => .event

/-- The type of the answer. -/
abbrev Reply : ServiceCall → Type
  | query .. => List Row
  | execute .. => ExecResult
  | renderPage .. => String
  | renderWidget .. => String
  | sendMail .. => Unit
  | createPayment .. => Json
  | paymentInformation .. => Json
  | executePayment .. => Json
  | verifyCaptcha .. => Bool
  | saveImage .. => Unit
  | findPlayer .. => Option PlayerRecord
  | isOnline .. => Bool
  | storageValue .. => Option Int
  | setStorageValue .. => Unit
  | schedule .. => EventId
  | cancel .. => Bool

end ServiceCall

/-- A question that was asked, and whether the service failed. -/
structure Interaction where
  call : ServiceCall
  failed : Bool

/-- The services of a host. -/
structure Services where
  /-- Is the service there? -/
  provides : ServiceKind → Bool
  /-- The answer to a question, given what was asked before, last first. -/
  answer : List Interaction → (call : ServiceCall) →
    Except HostFault call.Reply

/-- No services at all. -/
def Services.none : Services where
  provides _ := false
  answer _ call := .error (.unavailable call.kind)

end ScriptHost
