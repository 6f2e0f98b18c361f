/-
ScriptHost.Number.Word — the ranges of integers of fixed width.
-/

namespace ScriptHost.Word

/-- The largest number that 16 bits hold. -/
def max16 : Nat := 0xFFFF

/-- The largest number that 32 bits hold. -/
def max32 : Nat := 0xFFFFFFFF

/-- The largest number that 64 bits hold. -/
def max64 : Nat := 0xFFFFFFFFFFFFFFFF

/-- How many numbers 64 bits hold. -/
def size64 : Nat := 0x10000000000000000

/-- The least integer that 64 bits with a sign hold. -/
def minSigned : Int := -0x8000000000000000

/-- The largest integer that 64 bits with a sign hold. -/
def maxSigned : Int := 0x7FFFFFFFFFFFFFFF

/-- Do 64 bits with a sign hold the integer? -/
def isSigned (i : Int) : Bool := minSigned ≤ i && i ≤ maxSigned

end ScriptHost.Word
