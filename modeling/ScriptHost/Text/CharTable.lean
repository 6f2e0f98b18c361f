/-
ScriptHost.Text.CharTable — tables that give characters an image.

A table is written as a text of entries with blanks or line ends between
them. An entry is a character or a range of them, a sign, and an image, all
in hexadecimal numbers: `ab-ad=61.62` gives each of three characters the
image 61, 62; `41-5a+61` gives the first of 26 characters the image 61, the
next one 62, and so on. `CharTable.read` reads a table, whose entries must
stand in increasing order, and `CharTable.image?` looks a character up.
-/
import ScriptHost.Number.Numeral

namespace ScriptHost

/-- The images of a range of characters. -/
structure CharEntry where
  first : Nat
  last : Nat
  /-- The image of the first character. -/
  image : List Nat
  /-- Do the images grow with the characters, or stay the same? -/
  grows : Bool
  deriving DecidableEq, Repr

namespace CharEntry

/-- The image of a character of the range. -/
def imageOf (e : CharEntry) (number : Nat) : List Nat :=
  if e.grows then e.image.map (· + (number - e.first)) else e.image

/-- Reads an entry. -/
def ofChars? (cs : List Char) : Option CharEntry :=
  let isSign (c : Char) : Bool := c = '=' || c = '+'
  let range := cs.takeWhile fun c => !isSign c
  match cs.drop range.length with
  | sign :: image =>
    let first := range.takeWhile (· ≠ '-')
    let last := (range.drop first.length).drop 1
    some {
      first := ofDigits 16 first
      last := ofDigits 16 (if last.isEmpty then first else last)
      image := (image.splitOn '.').map (ofDigits 16)
      grows := sign = '+' }
  | [] => none

end CharEntry

/-- Entries in increasing order of their characters. -/
abbrev CharTable := Array CharEntry

namespace CharTable

/-- Reads a table. -/
def read (text : String) : CharTable :=
  let lines := text.toList.splitOn '\n'
  let words := lines.flatMap fun line => line.splitOn ' '
  (words.filterMap CharEntry.ofChars?).toArray

/-- The entry of a character, looked up from place `low` on and before
place `high`. -/
def search (t : CharTable) (number low high : Nat) : Option CharEntry :=
  if low < high then
    let middle := (low + high) / 2
    match t[middle]? with
    | some e =>
      if number < e.first then search t number low middle
      else if e.last < number then search t number (middle + 1) high
      else some e
    | none => none
  else none
termination_by high - low
decreasing_by all_goals omega

/-- The image of a character. -/
def image? (t : CharTable) (c : Char) : Option (List Nat) :=
  (t.search c.toNat 0 t.size).map (·.imageOf c.toNat)

/-- The first character with the given image. -/
def preimage? (t : CharTable) (image : List Nat) : Option Char :=
  (t.find? (·.image = image)).map fun e => Char.ofNat e.first

end CharTable

end ScriptHost
