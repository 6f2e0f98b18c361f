/-
ScriptHost.Text.Hex — bytes as hexadecimal digits.

Every byte is two lower-case digits; both cases are read.
-/
import ScriptHost.Number.Numeral
import ScriptHost.Text.Utf8

namespace ScriptHost.Hex

/-- The two digits of a byte. -/
def byteChars (b : UInt8) : List Char :=
  [Nat.digitChar (b.toNat / 16), Nat.digitChar (b.toNat % 16)]

/-- The digits of bytes. -/
def encode (bytes : Bytes) : String := String.ofList (bytes.flatMap byteChars)

/-- Reads pairs of digits. -/
def decodeChars? : List Char → Option Bytes
  | [] => some []
  | [_] => none
  | a :: b :: rest => do
    let high ← hexValue? a
    let low ← hexValue? b
    let bytes ← decodeChars? rest
    pure (UInt8.ofNat (high * 16 + low) :: bytes)

/-- Reads the digits of bytes. -/
def decode? (s : String) : Option Bytes := decodeChars? s.toList

end ScriptHost.Hex
