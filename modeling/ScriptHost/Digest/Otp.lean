/-
ScriptHost.Digest.Otp — one-time passwords.

`hotp` is the code of a counter under a key: four bytes of the keyed digest,
from a place that the digest itself gives, cut to six decimal digits. The
token of a step is its code with zeros in front. A token is accepted for the
time step it was made in and for the steps before and after it.
-/
import ScriptHost.Digest.Sha1
import ScriptHost.Number.Decimal
import ScriptHost.Text.Base32

namespace ScriptHost.Otp

/-- The digits of a token. -/
def digits : Nat := 6

/-- The seconds of a time step. -/
def stepSeconds : Int := 30

/-! ## Codes -/

/-- The number that bytes form, the highest first. -/
def ofBytes (bytes : Bytes) : Nat :=
  bytes.foldl (fun n b => n * 256 + b.toNat) 0

/-- Four bytes of a digest, from the place that its last four bits give,
without the top bit; nothing if one of them would lie outside. -/
def truncate? (digest : Bytes) : Option Nat := do
  let last ← digest[digest.length - 1]?
  let offset := (last &&& 0x0F).toNat
  let a ← digest[offset]?
  let b ← digest[offset + 1]?
  let c ← digest[offset + 2]?
  let d ← digest[offset + 3]?
  pure (ofBytes [a &&& 0x7F, b, c, d])

/-- Twenty bytes are enough for every place. -/
theorem truncate?_isSome {digest : Bytes} (h : digest.length = 20) :
    (truncate? digest).isSome = true := by
  have hlast : digest.length - 1 < digest.length := by omega
  have hoffset : (digest[digest.length - 1] &&& 0x0F).toNat < 16 := by
    rw [UInt8.toNat_and]
    exact Nat.lt_succ_of_le Nat.and_le_right
  simp only [truncate?, Option.bind_eq_bind, List.getElem?_eq_getElem hlast,
    Option.bind_some]
  rw [List.getElem?_eq_getElem (by omega), List.getElem?_eq_getElem (by omega),
    List.getElem?_eq_getElem (by omega), List.getElem?_eq_getElem (by omega)]
  rfl

/-- The code of a counter, if the digest is long enough for its place. -/
def hotp? (key : Bytes) (counter : Nat) : Option Nat :=
  (truncate? (Sha1.hmac key (Sha1.bigEndian 8 counter))).map
    fun n => n % Nat.pow 10 digits

theorem hotp?_isSome (key : Bytes) (counter : Nat) :
    (hotp? key counter).isSome = true := by
  rw [hotp?, Option.isSome_map]
  exact truncate?_isSome (Sha1.length_digest _)

/-- The code of a counter. -/
def hotp (key : Bytes) (counter : Nat) : Nat :=
  (hotp? key counter).get (hotp?_isSome key counter)

/-! ## Tokens -/

/-- Is it a text of six digits? -/
def isToken (token : String) : Bool :=
  let bytes := Utf8.ofString token
  bytes.length = digits && bytes.all fun b => 0x30 ≤ b && b ≤ 0x39

/-- The key of a secret, which must not be empty. -/
def key? (secret : String) : Option Bytes :=
  (Base32.decode? secret).filter fun k => !k.isEmpty

/-- The steps that a token may have been made in: that of the time, the one
before and the one after it. -/
def steps (time : Int) : List Int :=
  [-1, 0, 1].map fun drift => time / stepSeconds + drift

/-- Does a token fit the secret at a time? -/
def verify (secret token : String) (time : Int) : Bool :=
  match isToken token, key? secret with
  | true, some key =>
    (steps time).any fun step =>
      0 ≤ step && (hotp? key step.toNat).any fun code =>
        Decimal.padded digits code = token
  | _, _ => false

end ScriptHost.Otp
