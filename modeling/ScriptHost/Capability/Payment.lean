/-
ScriptHost.Capability.Payment — payments, made by the payment service.
-/
import ScriptHost.Script.Action

namespace ScriptHost

/-- The functions of `paypal`. -/
inductive PaymentFunction where
  | createPayment
  | paymentInformation
  | executePayment
  deriving DecidableEq, Repr

namespace PaymentFunction

variable {F : Type}

def named : List (String × PaymentFunction) :=
  [("createPayment", createPayment),
    ("paymentInformation", paymentInformation),
    ("executePayment", executePayment)]

/-- Makes sure that payments are switched on. -/
def requireEnabled : Action F Unit := do
  if !(← Action.host).config.paypal.enabled then
    Action.complain .payPalDisabled

/-- Texts are read before payments must be switched on, a payment only
then. -/
def run : PaymentFunction → List Value → Action F (List Value)
  | createPayment, args => do
    requireEnabled
    let payment ← Action.toJson (Argument.nth args 0)
    let created : Json ← Action.serve (.createPayment payment)
    pure [← Action.ofJson created]
  | paymentInformation, args => do
    let id ← Action.argument Argument.text args 0
    requireEnabled
    let payment : Json ← Action.serve (.paymentInformation id)
    pure [← Action.ofJson payment]
  | executePayment, args => do
    let id ← Action.argument Argument.text args 0
    let payer ← Action.argument Argument.text args 1
    requireEnabled
    let payment : Json ← Action.serve (.executePayment id payer)
    pure [← Action.ofJson payment]

end PaymentFunction

end ScriptHost
