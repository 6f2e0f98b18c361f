/-
ScriptHost.Digest.Sha1 — the SHA-1 digest, and codes made with it.

The message is padded to whole blocks of 64 bytes. Each block is stretched
to eighty words, which are mixed into five words of state one after
another. `hmac` is the keyed code built on the digest.
-/
import ScriptHost.Number.Word
import ScriptHost.Text.Utf8

namespace ScriptHost.Sha1

/-- The five words of state. -/
structure State where
  a : UInt32
  b : UInt32
  c : UInt32
  d : UInt32
  e : UInt32
  deriving DecidableEq, Repr

/-- The state before the first block. -/
def State.initial : State :=
  ⟨0x67452301, 0xEFCDAB89, 0x98BADCFE, 0x10325476, 0xC3D2E1F0⟩

/-- Turns a word to the left. -/
def rotate (x : UInt32) (n : UInt32) : UInt32 :=
  (x <<< n) ||| (x >>> (32 - n))

/-! ## Blocks -/

/-- The bytes of a block. -/
def blockLength : Nat := 64

/-- A number as so many bytes, the highest first. -/
def bigEndian (count n : Nat) : Bytes :=
  (List.range count).map fun i =>
    UInt8.ofNat (n / Nat.pow 256 (count - 1 - i) % 256)

/-- The message with its padding: a single bit, zeros, and the length in
bits. -/
def pad (message : Bytes) : Bytes :=
  let zeros := (119 - message.length % blockLength) % blockLength
  message ++ 0x80 :: (List.replicate zeros 0
    ++ bigEndian 8 (8 * message.length % Word.size64))

/-- The words that bytes form, four by four. -/
def words : Bytes → List UInt32
  | a :: b :: c :: d :: rest =>
    ((a.toUInt32 <<< 24) ||| (b.toUInt32 <<< 16) ||| (c.toUInt32 <<< 8)
      ||| d.toUInt32) :: words rest
  | _ => []

/-- Adds so many words to those of a block, kept last first. -/
def stretch : Nat → List UInt32 → List UInt32
  | 0, ws => ws
  | n + 1, ws =>
    let w := ws.getD 2 0 ^^^ ws.getD 7 0 ^^^ ws.getD 13 0 ^^^ ws.getD 15 0
    stretch n (rotate w 1 :: ws)

/-- The eighty words of a block. -/
def schedule (block : List UInt32) : List UInt32 :=
  (stretch 64 block.reverse).reverse

/-! ## Mixing -/

/-- The function and the constant of a round. -/
def round (n : Nat) (s : State) : UInt32 × UInt32 :=
  if n < 20 then ((s.b &&& s.c) ||| (~~~s.b &&& s.d), 0x5A827999)
  else if n < 40 then (s.b ^^^ s.c ^^^ s.d, 0x6ED9EBA1)
  else if n < 60 then
    ((s.b &&& s.c) ||| (s.b &&& s.d) ||| (s.c &&& s.d), 0x8F1BBCDC)
  else (s.b ^^^ s.c ^^^ s.d, 0xCA62C1D6)

/-- Mixes one word into the state. -/
def mix (s : State) (n : Nat) (w : UInt32) : State :=
  let (f, k) := round n s
  ⟨rotate s.a 5 + f + s.e + k + w, s.a, rotate s.b 30, s.c, s.d⟩

/-- Mixes words into the state, counted from `n` on. -/
def mixAll (n : Nat) (s : State) : List UInt32 → State
  | [] => s
  | w :: rest => mixAll (n + 1) (mix s n w) rest

/-- Takes a block in. -/
def absorb (s : State) (block : List UInt32) : State :=
  let t := mixAll 0 s (schedule block)
  ⟨s.a + t.a, s.b + t.b, s.c + t.c, s.d + t.d, s.e + t.e⟩

/-- Takes whole blocks of words in, so many of them. -/
def absorbAll : Nat → State → List UInt32 → State
  | 0, s, _ => s
  | n + 1, s, ws => absorbAll n (absorb s (ws.take 16)) (ws.drop 16)

/-- The bytes of the state. -/
def State.bytes (s : State) : Bytes :=
  [s.a, s.b, s.c, s.d, s.e].flatMap fun w => bigEndian 4 w.toNat

/-- The digest of a message: twenty bytes. -/
def digest (message : Bytes) : Bytes :=
  let padded := pad message
  (absorbAll (padded.length / blockLength) .initial (words padded)).bytes

theorem length_bigEndian (count n : Nat) :
    (bigEndian count n).length = count := by
  simp [bigEndian]

theorem length_digest (message : Bytes) : (digest message).length = 20 := by
  simp [digest, State.bytes, length_bigEndian]

/-! ## Keyed codes -/

/-- A key of one block: a longer one is replaced by its digest, and zeros
fill the rest. -/
def blockKey (key : Bytes) : Bytes :=
  let short := if blockLength < key.length then digest key else key
  short ++ List.replicate (blockLength - short.length) 0

/-- The code of a message under a key. -/
def hmac (key message : Bytes) : Bytes :=
  let k := blockKey key
  digest (k.map (· ^^^ 0x5C) ++ digest (k.map (· ^^^ 0x36) ++ message))

end ScriptHost.Sha1
