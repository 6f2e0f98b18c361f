/-
ScriptHost.Text.Blank — white space of every script.

`isBlank` is the Unicode property `White_Space`. `trim` takes blanks off
both ends of a text.
-/

namespace ScriptHost

/-- Is it white space? -/
def isBlank (c : Char) : Bool :=
  let n := c.toNat
  n = 0x20 || (0x09 ≤ n && n ≤ 0x0D) || n = 0x85 || n = 0xA0 || n = 0x1680
    || (0x2000 ≤ n && n ≤ 0x200A) || n = 0x2028 || n = 0x2029 || n = 0x202F
    || n = 0x205F || n = 0x3000

/-- Characters without the blanks at both ends. -/
def trimChars (cs : List Char) : List Char :=
  ((cs.dropWhile isBlank).reverse.dropWhile isBlank).reverse

/-- A text without the blanks at both ends. -/
def trim (s : String) : String := String.ofList (trimChars s.toList)

end ScriptHost
