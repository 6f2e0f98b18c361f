/-
ScriptHost.Url.Punycode — names of hosts that ASCII letters stand for.

A name holds its ASCII characters in front of the last hyphen. The digits
behind it say which other characters are to be inserted, and where: they
spell a row of distances, each in a number system whose places grow with
what was read before (`adapt`).
-/
import ScriptHost.Number.Numeral
import ScriptHost.Number.Word

namespace ScriptHost.Punycode

/-- The base of the number system. -/
def base : Nat := 36

/-- The least and the largest threshold of a place. -/
def leastThreshold : Nat := 1
def largestThreshold : Nat := 26

/-- The value of a digit: letters first, then decimal digits. -/
def digit? (c : Char) : Option Nat :=
  if 'a' ≤ c ∧ c ≤ 'z' then some (c.toNat - 'a'.toNat)
  else if 'A' ≤ c ∧ c ≤ 'Z' then some (c.toNat - 'A'.toNat)
  else if c.isDigit then some (digitValue c + 26)
  else none

/-- Divides a distance down until it is small, and counts the divisions in
steps of the base. -/
def settle (delta k : Nat) : Nat :=
  if delta ≤ (base - leastThreshold) * largestThreshold / 2 then
    k + (base - leastThreshold + 1) * delta / (delta + 38)
  else settle (delta / (base - leastThreshold)) (k + base)
termination_by delta
decreasing_by
  simp only [base, leastThreshold, largestThreshold] at *
  omega

/-- The bias after a distance, once `count` characters are placed. -/
def adapt (delta count : Nat) (isFirst : Bool) : Nat :=
  let scaled := if isFirst then delta / 700 else delta / 2
  settle (scaled + scaled / count) 0

/-- What has been read. -/
structure Reading where
  /-- The characters placed so far. -/
  placed : List Char
  /-- The number of the next character to be placed. -/
  number : Nat := 128
  /-- Where the last one was placed. -/
  start : Nat := 0
  /-- Where the next one will be placed, as far as its digits are read. -/
  place : Nat := 0
  /-- The weight of the next digit. -/
  weight : Nat := 1
  /-- The position of the next digit, in steps of the base. -/
  position : Nat := base
  bias : Nat := 72

/-- The threshold of the next digit. -/
def Reading.threshold (r : Reading) : Nat :=
  if r.position ≤ r.bias then leastThreshold
  else min largestThreshold (max leastThreshold (r.position - r.bias))

/-- The character of a number. -/
def charOf? (n : Nat) : Option Char :=
  if n.isValidChar then some (Char.ofNat n) else none

/-- Places the character that a finished distance gives. -/
def Reading.insert? (r : Reading) : Option Reading := do
  let count := r.placed.length + 1
  let number := r.number + r.place / count
  let spot := r.place % count
  let c ← charOf? number
  pure {
    placed := r.placed.take spot ++ c :: r.placed.drop spot
    number := number
    start := spot + 1
    place := spot + 1
    bias := adapt (r.place - r.start) count (r.start = 0) }

/-- Takes a digit in. Places and weights beyond 32 bits are refused. -/
def Reading.step? (r : Reading) (c : Char) : Option Reading := do
  let d ← digit? c
  let r' := { r with place := r.place + d * r.weight }
  let weight := r.weight * (base - r.threshold)
  if Word.max32 < r'.place then none
  else if d < r.threshold then r'.insert?
  else if Word.max32 < weight then none
  else some { r' with weight := weight, position := r.position + base }

/-- The characters in front of the last hyphen, and what follows it. -/
def split (cs : List Char) : List Char × List Char :=
  let back := cs.reverse
  match back.dropWhile (· ≠ '-') with
  | _ :: front@(_ :: _) =>
    (front.reverse, (back.takeWhile (· ≠ '-')).reverse)
  | _ => ([], cs)

/-- Reads a name. The last distance must be complete. -/
def decode? (cs : List Char) : Option (List Char) := do
  let (ascii, digits) := split cs
  if !ascii.all fun c => c.toNat < 128 then none
  else
    let r ← digits.foldlM Reading.step? { placed := ascii }
    if r.position = base then some r.placed else none

end ScriptHost.Punycode
