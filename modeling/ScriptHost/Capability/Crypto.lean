/-
ScriptHost.Capability.Crypto — digests, random texts and secrets of
two-factor logins.
-/
import ScriptHost.Digest.Sha1
import ScriptHost.Host.Entropy
import ScriptHost.Script.Action
import ScriptHost.Text.Base32
import ScriptHost.Text.Hex
import ScriptHost.Url.Provisioning

namespace ScriptHost

/-- The functions of `crypto`. -/
inductive CryptoFunction where
  | sha1
  | randomString
  | qrKey
  | qr
  deriving DecidableEq, Repr

namespace CryptoFunction

variable {F : Type}

def named : List (String × CryptoFunction) :=
  [("sha1", sha1), ("randomString", randomString), ("qrKey", qrKey),
    ("qr", qr)]

/-- Letters and digits of ASCII. -/
def alphanumeric : List Char :=
  ("ABCDEFGHIJKLMNOPQRSTUVWXYZ" ++ "abcdefghijklmnopqrstuvwxyz"
    ++ "0123456789").toList

/-- No text is longer than this, in bytes. -/
def longestText : Int := Word.maxSigned

/-- The characters of a secret. -/
def secretLength : Nat := 16

/-- A text of random letters. -/
def randomText (letters : List Char) (count : Nat) : Action F Value := do
  let (cs, entropy) := Entropy.draw letters count (← Action.shared).entropy
  Action.modifyShared fun s => { s with entropy := entropy }
  pure (.ofText (String.ofList cs))

/-- A length that no text can have is the end of the run. -/
def run : CryptoFunction → List Value → Action F (List Value)
  | sha1, args => do
    let input ← Action.argument Argument.bytes args 0
    pure [.ofText (Hex.encode (Sha1.digest input))]
  | randomString, args => do
    let count ← Action.argument (Argument.integer Argument.wordSize) args 0
    if longestText < count then Action.panic
    else pure [← randomText alphanumeric count.toNat]
  | qrKey, _ => do
    pure [← randomText Base32.alphabet secretLength]
  | qr, args => do
    let secret ← Action.argument Argument.text args 0
    let account ← Action.argument Argument.text args 1
    let issuer ← Action.argument (Argument.optional Argument.text) args 2
    pure [.ofText (Url.provisioning secret account issuer)]

end CryptoFunction

end ScriptHost
