/-
ScriptHost.Xml.Escape — characters of XML that must be written as
references.

`escape` replaces the five characters of markup by references. `unescape?`
reads references to these five and to any character by its number; an
ampersand that begins no reference is refused.
-/
import ScriptHost.Number.Numeral

namespace ScriptHost.Xml

/-- The names of the five characters of markup. -/
def entities : List (List Char × Char) :=
  [("lt".toList, '<'), ("gt".toList, '>'), ("amp".toList, '&'),
    ("apos".toList, '\''), ("quot".toList, '"')]

/-- A character of text. -/
def escapeChar (c : Char) : List Char :=
  if c = '<' then "&lt;".toList
  else if c = '>' then "&gt;".toList
  else if c = '&' then "&amp;".toList
  else if c = '\'' then "&apos;".toList
  else if c = '"' then "&quot;".toList
  else [c]

/-- Text with references. -/
def escape (cs : List Char) : List Char := cs.flatMap escapeChar

/-- The character of a number: any but zero. -/
def charOfNumber? (n : Nat) : Option Char :=
  if n ≠ 0 ∧ n.isValidChar then some (Char.ofNat n) else none

/-- The character that the digits of a reference give. -/
def charOfDigits? (base : Nat) (isDigit : Char → Bool) (cs : List Char) :
    Option Char :=
  if cs.isEmpty || !cs.all isDigit then none
  else charOfNumber? (ofDigits base cs)

/-- The character that a reference names. -/
def resolve? : List Char → Option Char
  | '#' :: 'x' :: digits => charOfDigits? 16 isHexDigit digits
  | '#' :: digits => charOfDigits? 10 Char.isDigit digits
  | name => entities.lookup name

/-- Is the character part of a reference's name? -/
def isNameChar (c : Char) : Bool := c ≠ '&' && c ≠ ';'

/-- Reads references, at most `fuel` characters of text. -/
def unescapeFrom? : Nat → List Char → Option (List Char)
  | _, [] => some []
  | 0, _ => none
  | fuel + 1, c :: rest =>
    if c = '&' then
      match rest.dropWhile isNameChar with
      | ';' :: tail => do
        let d ← resolve? (rest.takeWhile isNameChar)
        let ds ← unescapeFrom? fuel tail
        pure (d :: ds)
      | _ => none
    else (unescapeFrom? fuel rest).map (c :: ·)

/-- Text without references. -/
def unescape? (cs : List Char) : Option (List Char) :=
  unescapeFrom? cs.length cs

end ScriptHost.Xml
