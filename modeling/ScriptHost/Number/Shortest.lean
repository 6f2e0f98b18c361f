/-
ScriptHost.Number.Shortest — the fewest digits that read back.

`shortest x` is the decimal number with the fewest digits among those that
round to `x`, and among these the one nearest to `x`, a tie going to the
even digit. For 1, 2, … 17 digits the two neighbours of the value on the
decimal grid are tested against the interval of numbers that round to `x`;
the first grid with a hit wins.
-/
import ScriptHost.Number.Binary64
import ScriptHost.Number.Decimal

namespace ScriptHost.Binary64

/-- `num / den` compared with `10 ^ k`: is it below? -/
def belowPowerOfTen (num den : Nat) (k : Int) : Bool :=
  if 0 ≤ k then num < den * Nat.pow 10 k.toNat
  else num * Nat.pow 10 (-k).toNat < den

/-- The largest `k` with `10 ^ k ≤ num / den`, for positive arguments. The
binary logarithm gives it up to one. -/
def floorLog10 (num den : Nat) : Int :=
  let guess := (floorLog2 num den * 30103) / 100000
  if belowPowerOfTen num den guess then guess - 1
  else if belowPowerOfTen num den (guess + 1) then guess
  else guess + 1

/-- The numbers that round to a finite nonzero number: between `low / den`
and `high / den`, with the ends if `closed`. -/
structure RoundingInterval where
  low : Nat
  value : Nat
  high : Nat
  den : Nat
  closed : Bool

/-- The interval of a finite nonzero number. It reaches half a step to both
sides, and a quarter step downwards where the steps below are half as
long. -/
def roundingInterval (x : Binary64) : RoundingInterval :=
  let (m, e) := x.significand
  let down :=
    if x.magnitude % fractionModulus = 0 ∧ fractionModulus < x.magnitude
    then 1 else 2
  let shift := if 0 ≤ e - 2 then (e - 2).toNat else 0
  let den := if 0 ≤ e - 2 then 1 else 1 <<< (2 - e).toNat
  { low := (4 * m - down) <<< shift
    value := (4 * m) <<< shift
    high := (4 * m + 2) <<< shift
    den := den
    closed := m % 2 = 0 }

/-- Does `c · 10 ^ k` lie in the interval? -/
def RoundingInterval.holds (i : RoundingInterval) (c : Nat) (k : Int) : Bool :=
  let point := if 0 ≤ k then c * Nat.pow 10 k.toNat * i.den else c * i.den
  let scale := if 0 ≤ k then 1 else Nat.pow 10 (-k).toNat
  if i.closed then i.low * scale ≤ point && point ≤ i.high * scale
  else i.low * scale < point && point < i.high * scale

/-- The neighbours of the value on the grid of multiples of `10 ^ k`: the
one that lies in the interval, or the nearer one if both do. -/
def RoundingInterval.onGrid? (i : RoundingInterval) (k : Int) :
    Option Decimal :=
  let num := if 0 ≤ k then i.value else i.value * Nat.pow 10 (-k).toNat
  let den := if 0 ≤ k then i.den * Nat.pow 10 k.toNat else i.den
  let c := num / den
  match i.holds c k, i.holds (c + 1) k with
  | true, true => some ⟨roundHalfEven num den, k⟩
  | true, false => some ⟨c, k⟩
  | false, true => some ⟨c + 1, k⟩
  | false, false => none

/-- The fewest digits that read back as `|x|`, for finite nonzero `x`. -/
def shortest (x : Binary64) : Decimal :=
  let i := x.roundingInterval
  let top := floorLog10 i.value i.den
  let found :=
    (List.range 17).findSome? fun (n : Nat) => i.onGrid? (top - (n : Int))
  (found.getD ⟨0, 0⟩).reduce

/-- `|x|` rounded to so many significant digits, a tie to the even one, for
finite nonzero `x`. -/
def significantDigits (x : Binary64) (count : Nat) : Decimal :=
  let (num, den) := x.ratio
  let k := floorLog10 num den + 1 - (count : Int)
  if 0 ≤ k then ⟨roundHalfEven num (den * Nat.pow 10 k.toNat), k⟩
  else ⟨roundHalfEven (num * Nat.pow 10 (-k).toNat) den, k⟩

end ScriptHost.Binary64
