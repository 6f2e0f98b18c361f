/-
ScriptHost.Text.Character — classes of characters.

A class may be given by ranges of numbers, and letters of ASCII may count as
the same in upper and lower case.
-/

namespace ScriptHost

/-- Does the number of a character lie in one of the ranges, ends
included? -/
def inRanges (ranges : Array (Nat × Nat)) (c : Char) : Bool :=
  ranges.any fun (low, high) => low ≤ c.toNat && c.toNat ≤ high

/-- Are two texts equal but for the case of ASCII letters? -/
def sameIgnoringCase (a b : String) : Bool :=
  a.toList.map Char.toLower = b.toList.map Char.toLower

end ScriptHost
