/-
ScriptHost.Capability.Captcha — tests that tell people from machines.

While they are switched off every answer is right.
-/
import ScriptHost.Script.Action

namespace ScriptHost

/-- The functions of `captcha`. -/
inductive CaptchaFunction where
  | isEnabled
  | verify
  deriving DecidableEq, Repr

namespace CaptchaFunction

variable {F : Type}

def named : List (String × CaptchaFunction) :=
  [("isEnabled", isEnabled), ("verify", verify)]

def run : CaptchaFunction → List Value → Action F (List Value)
  | isEnabled, _ => do
    pure [.bool (← Action.host).config.captcha.enabled]
  | verify, args => do
    let response ← Action.argument Argument.text args 0
    let settings := (← Action.host).config.captcha
    if !settings.enabled then pure [.bool true]
    else
      let remoteAddr := (← Action.exchange).request.remoteAddr
      let verdict ← Action.serve
        (.verifyCaptcha settings.secretKey response remoteAddr)
      pure [.bool verdict]

end CaptchaFunction

end ScriptHost
