/-
ScriptHost.Capability.FormCoding — text as form data, and back.
-/
import ScriptHost.Script.Action
import ScriptHost.Url.Form

namespace ScriptHost

/-- The functions of `url`. -/
inductive UrlFunction where
  | encode
  | decode
  deriving DecidableEq, Repr

namespace UrlFunction

variable {F : Type}

def named : List (String × UrlFunction) :=
  [("encode", encode), ("decode", decode)]

/-- Ends because a text is no form data. -/
def refuse {α : Type} : Form.Refusal → Action F α
  | .escape behind => Action.complain (.urlEscape (Utf8.lossy behind))
  | .encoding e => Action.complain (.urlEncoding e)
  | .outside => Action.panic

def run : UrlFunction → List Value → Action F (List Value)
  | encode, args => do
    let text ← Action.argument Argument.text args 0
    pure [.ofText (Form.encode text)]
  | decode, args => do
    let text ← Action.argument Argument.text args 0
    match Form.decode text with
    | .ok decoded => pure [.ofText decoded]
    | .error e => refuse e

end UrlFunction

end ScriptHost
