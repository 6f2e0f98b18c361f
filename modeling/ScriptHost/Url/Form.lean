/-
ScriptHost.Url.Form — text as form data.

Letters, digits and `*-._` stand for themselves, a plus for a space, and
every other byte is a percent sign with two digits. `Form.decode` first looks
through the text for percent signs without two digits behind them, then puts
spaces in the place of plus signs and reads the escapes. It refuses bytes
that are no UTF-8.
-/
import ScriptHost.Number.Numeral
import ScriptHost.Text.Utf8

namespace ScriptHost

namespace Percent

/-- An upper-case hexadecimal digit. -/
def digit (n : Nat) : Char := (Nat.digitChar n).toUpper

/-- A byte as a percent sign and two digits. -/
def escape (b : UInt8) : List Char :=
  ['%', digit (b.toNat / 16), digit (b.toNat % 16)]

/-- The percent sign as a byte. -/
def sign : UInt8 := 0x25

/-- The value of a digit given as a byte. -/
def value? (b : UInt8) : Option Nat := hexValue? (Char.ofNat b.toNat)

/-- The byte that two digits give. -/
def byte? (a b : UInt8) : Option UInt8 := do
  let high ← value? a
  let low ← value? b
  pure (UInt8.ofNat (high * 16 + low))

/-- What a reader of escapes takes at once. -/
inductive Piece where
  /-- A byte that stands for itself. -/
  | plain (b : UInt8)
  /-- Two digits behind a percent sign, and the byte that they give. -/
  | escape (high low value : UInt8)
  deriving DecidableEq, Repr

/-- The byte that a piece stands for. -/
def Piece.value : Piece → UInt8
  | plain b => b
  | escape _ _ value => value

/-- Cuts bytes into escapes and single bytes; a percent sign that begins no
escape stands for itself. -/
def pieces : Bytes → List Piece
  | a :: b :: c :: rest =>
    if a = sign then
      match byte? b c with
      | some value => .escape b c value :: pieces rest
      | none => .plain a :: pieces (b :: c :: rest)
    else .plain a :: pieces (b :: c :: rest)
  | bytes => bytes.map .plain

/-- Reads escapes. -/
def decode (bytes : Bytes) : Bytes := (pieces bytes).map Piece.value

end Percent

namespace Form

/-- Does the byte stand for itself? -/
def isPlain (b : UInt8) : Bool :=
  let c := Char.ofNat b.toNat
  b.toNat < 0x80
    && (c.isAlphanum || c = '*' || c = '-' || c = '.' || c = '_')

/-- A byte in form data. -/
def encodeByte (b : UInt8) : List Char :=
  if isPlain b then [Char.ofNat b.toNat]
  else if b = 0x20 then ['+']
  else Percent.escape b

/-- A text as form data. -/
def encode (s : String) : String :=
  String.ofList ((Utf8.ofString s).flatMap encodeByte)

/-! ## Reading -/

/-- Why a text is no form data. -/
inductive Refusal where
  /-- A percent sign with these bytes behind it. -/
  | escape (behind : Bytes)
  | encoding (error : Utf8.DecodeError)
  /-- Bytes were asked for from a place behind the end. -/
  | outside
  deriving DecidableEq, Repr

/-- The bytes from one place up to another, if both are places in the text
or its end. -/
def slice? (bytes : Array UInt8) (first last : Nat) : Option Bytes :=
  if first ≤ last ∧ last ≤ bytes.size then
    some (bytes.extract first last).toList
  else none

/-- The two bytes behind a place, or all if there are fewer. -/
def behind? (bytes : Array UInt8) (i : Nat) : Option Bytes :=
  (slice? bytes (i + 1) (i + 3)).or (slice? bytes (i + 1) bytes.size)

/-- Looks at a place, and gives the place to look at next: the one behind an
escape, or the next one. -/
def look (bytes : Array UInt8) (i : Nat) : Except Refusal Nat :=
  if bytes[i]? = some Percent.sign then
    match behind? bytes i with
    | none => .error .outside
    | some digits =>
      if digits.length ≠ 2 || !digits.all fun b => (Percent.value? b).isSome
      then .error (.escape digits)
      else .ok (i + 3)
  else .ok (i + 1)

theorem lt_of_look {bytes : Array UInt8} {i j : Nat}
    (h : look bytes i = .ok j) : i < j := by
  unfold look at h
  split at h
  · split at h
    · cases h
    · split at h
      · cases h
      · cases h
        omega
  · cases h
    omega

/-- Looks at a place and at all that come behind it: does every percent sign
begin an escape? -/
def checkFrom (bytes : Array UInt8) (i : Nat) : Except Refusal Unit :=
  if i < bytes.size then
    match _ : look bytes i with
    | .error e => .error e
    | .ok j => checkFrom bytes j
  else .ok ()
termination_by bytes.size - i
decreasing_by
  have := lt_of_look ‹_›
  omega

/-- A space in the place of a plus. -/
def plusAsSpace (c : Char) : Char := if c = '+' then ' ' else c

/-- The text that form data stands for. -/
def decode (s : String) : Except Refusal String := do
  checkFrom (Utf8.ofString s).toArray 0
  let spaced := String.ofList (s.toList.map plusAsSpace)
  match Utf8.toString? (Percent.decode (Utf8.ofString spaced)) with
  | .ok text => .ok text
  | .error e => .error (.encoding e)

end Form

end ScriptHost
