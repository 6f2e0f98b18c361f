/-
ScriptHost.Capability.MailSending — outbound mail.
-/
import ScriptHost.Script.Action

namespace ScriptHost

/-- The functions of `mail`. -/
inductive MailFunction where
  | send
  deriving DecidableEq, Repr

namespace MailFunction

variable {F : Type}

def named : List (String × MailFunction) := [("send", send)]

/-- The addresses that a value gives: one text, or the items of a table. -/
def addresses : Value → Action F (List String)
  | .str s => do pure [← Action.ofExcept (Argument.utf8 "&str" s)]
  | .table id => do
    let items := ((← Action.interpreter).table id).items
    items.mapM fun v => Action.ofExcept (Argument.textAs "String" v)
  | _ => Action.complain .mailAddress

/-- The addresses that a value gives, at least one. -/
def recipients (v : Value) : Action F (List String) := do
  match ← addresses v with
  | [] => Action.complain .mailNoRecipients
  | list => pure list

/-- The recipients are looked at last, and only if mail is switched on. -/
def run : MailFunction → List Value → Action F (List Value)
  | send, args => do
    let subject ← Action.argument Argument.text args 1
    let body ← Action.argument Argument.text args 2
    if !(← Action.host).config.mail.enabled then
      Action.complain .mailDisabled
    else
      let list ← recipients (Argument.nth args 0)
      Action.serve (.sendMail
        { recipients := list, subject := subject, body := body })
      pure []

end MailFunction

end ScriptHost
