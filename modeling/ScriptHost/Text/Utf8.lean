/-
ScriptHost.Text.Utf8 — characters as bytes.

`encode` writes characters as UTF-8 and `decode` reads them back. A refusal
says where the text stops being readable (`DecodeError`): either some bytes
cannot belong to any character, or the text ends inside one. `lossy` puts
the replacement character in the place of every unreadable run.
-/

namespace ScriptHost

/-- A string of bytes. -/
abbrev Bytes := List UInt8

namespace Utf8

/-! ## Writing -/

/-- A byte given by a number below 256. -/
def byte (n : Nat) : UInt8 := UInt8.ofNat n

/-- The bytes of one character: one, two, three or four of them. -/
def encodeChar (c : Char) : Bytes :=
  let n := c.toNat
  if n < 0x80 then [byte n]
  else if n < 0x800 then [byte (0xC0 + n / 64), byte (0x80 + n % 64)]
  else if n < 0x10000 then
    [byte (0xE0 + n / 4096), byte (0x80 + n / 64 % 64), byte (0x80 + n % 64)]
  else
    [byte (0xF0 + n / 262144), byte (0x80 + n / 4096 % 64),
      byte (0x80 + n / 64 % 64), byte (0x80 + n % 64)]

/-- The bytes of a row of characters. -/
def encode (cs : List Char) : Bytes := cs.flatMap encodeChar

/-- The bytes of a text. -/
def ofString (s : String) : Bytes := encode s.toList

/-! ## Reading -/

/-- A stretch of bytes, as a reader sees it. -/
inductive Piece where
  /-- A whole character. -/
  | char (c : Char)
  /-- So many bytes that belong to no character. -/
  | invalid (length : Nat)
  /-- The text ends inside a character. -/
  | incomplete
  deriving DecidableEq, Repr

/-- Is it a byte that can only stand inside a character? -/
def isTail (b : UInt8) : Bool := 0x80 ≤ b.toNat && b.toNat < 0xC0

/-- The low six bits of a byte inside a character. -/
def tailBits (b : UInt8) : Nat := b.toNat % 64

/-- The range that the second byte of a character may come from, given the
first: narrower than usual where a shorter form, a surrogate or a number
beyond the last character would be written. -/
def secondRange (first : Nat) : Nat × Nat :=
  if first = 0xE0 then (0xA0, 0xC0)
  else if first = 0xED then (0x80, 0xA0)
  else if first = 0xF0 then (0x90, 0xC0)
  else if first = 0xF4 then (0x80, 0x90)
  else (0x80, 0xC0)

/-- Does the byte fit as second byte behind `first`? -/
def isSecond (first : UInt8) (b : UInt8) : Bool :=
  let (low, high) := secondRange first.toNat
  low ≤ b.toNat && b.toNat < high

/-- Cuts bytes into pieces. A run that belongs to no character ends where
the next byte could start one. -/
def pieces : Bytes → List Piece
  | [] => []
  | a :: rest =>
    if a.toNat < 0x80 then .char (Char.ofNat a.toNat) :: pieces rest
    else if a.toNat < 0xC2 ∨ 0xF4 < a.toNat then .invalid 1 :: pieces rest
    else match rest with
      | [] => [.incomplete]
      | b :: rest₁ =>
        if !isSecond a b then .invalid 1 :: pieces (b :: rest₁)
        else if a.toNat < 0xE0 then
          .char (Char.ofNat ((a.toNat - 0xC0) * 64 + tailBits b)) ::
            pieces rest₁
        else match rest₁ with
          | [] => [.incomplete]
          | c :: rest₂ =>
            if !isTail c then .invalid 2 :: pieces (c :: rest₂)
            else if a.toNat < 0xF0 then
              .char (Char.ofNat ((a.toNat - 0xE0) * 4096 + tailBits b * 64
                + tailBits c)) :: pieces rest₂
            else match rest₂ with
              | [] => [.incomplete]
              | d :: rest₃ =>
                if !isTail d then .invalid 3 :: pieces (d :: rest₃)
                else
                  .char (Char.ofNat ((a.toNat - 0xF0) * 262144
                    + tailBits b * 4096 + tailBits c * 64 + tailBits d)) ::
                    pieces rest₃

/-- Why bytes are not a text, and where. -/
structure DecodeError where
  /-- How many bytes in front are readable. -/
  index : Nat
  /-- How many bytes belong to no character; none if the text ends inside
  one. -/
  length : Option Nat
  deriving DecidableEq, Repr

/-- The wording of a refusal. -/
def DecodeError.message (e : DecodeError) : String :=
  match e.length with
  | some n => s!"invalid utf-8 sequence of {n} bytes from index {e.index}"
  | none => s!"incomplete utf-8 byte sequence from index {e.index}"

/-- Reads pieces that begin at the given index of the text. -/
def join (index : Nat) : List Piece → Except DecodeError (List Char)
  | [] => .ok []
  | .char c :: rest =>
    (join (index + (encodeChar c).length) rest).map (c :: ·)
  | .invalid n :: _ => .error ⟨index, some n⟩
  | .incomplete :: _ => .error ⟨index, none⟩

/-- Reads bytes as characters. -/
def decode (bytes : Bytes) : Except DecodeError (List Char) :=
  join 0 (pieces bytes)

/-- Reads bytes as a text. -/
def toString? (bytes : Bytes) : Except DecodeError String :=
  (decode bytes).map String.ofList

/-- Reads bytes as a text, with the replacement character for every run
that belongs to no character. -/
def lossy (bytes : Bytes) : String :=
  String.ofList ((pieces bytes).map fun
    | .char c => c
    | .invalid _ => '\uFFFD'
    | .incomplete => '\uFFFD')

end Utf8

end ScriptHost
