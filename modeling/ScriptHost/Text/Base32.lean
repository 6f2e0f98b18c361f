/-
ScriptHost.Text.Base32 — bytes as letters and digits of 32 kinds.

Every character stands for five bits, and eight bits form a byte. A `Reader`
takes characters one by one: bits that form no whole byte yet wait in a word
of 32 bits. Padding and blanks are skipped wherever they stand, and letters
are read in both cases. Bits still waiting at the end are left out.
-/
import ScriptHost.Text.Blank
import ScriptHost.Text.Utf8

namespace ScriptHost.Base32

/-- The characters, by their value. -/
def alphabet : List Char := "ABCDEFGHIJKLMNOPQRSTUVWXYZ234567".toList

/-- The value of a character. -/
def value? (c : Char) : Option Nat := alphabet.idxOf? c.toUpper

/-- Is the character skipped? -/
def isSkipped (c : Char) : Bool := isBlank c || c = '='

/-- What has been read: the whole bytes, last first, and a word with so many
bits that wait for more. -/
structure Reader where
  done : Bytes
  buffer : UInt32
  waiting : Nat
  deriving DecidableEq, Repr

namespace Reader

/-- Nothing has been read yet. -/
def start : Reader := ⟨[], 0, 0⟩

/-- Takes the five bits of a value in. Once eight bits wait, the first eight
of them are a byte. -/
def push (r : Reader) (value : Nat) : Reader :=
  let buffer := (r.buffer <<< 5) ||| UInt32.ofNat value
  let waiting := r.waiting + 5
  if 8 ≤ waiting then
    let left := UInt32.ofNat (waiting - 8)
    ⟨(buffer >>> left).toUInt8 :: r.done, buffer &&& ((1 <<< left) - 1),
      waiting - 8⟩
  else ⟨r.done, buffer, waiting⟩

/-- Reads one character. -/
def read? (r : Reader) (c : Char) : Option Reader :=
  if isSkipped c then some r else (value? c).map r.push

/-- Reads characters. -/
def readAll? (r : Reader) (cs : List Char) : Option Reader :=
  cs.foldlM read? r

end Reader

/-- Reads characters as bytes. -/
def decodeChars? (cs : List Char) : Option Bytes :=
  (Reader.start.readAll? cs).map fun r => r.done.reverse

/-- Reads a text as bytes. -/
def decode? (s : String) : Option Bytes := decodeChars? s.toList

end ScriptHost.Base32
