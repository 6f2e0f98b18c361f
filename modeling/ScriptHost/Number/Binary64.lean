/-
ScriptHost.Number.Binary64 — double-precision numbers as bit patterns.

A number is its 64-bit pattern: a sign, eleven exponent bits and 52
fraction bits. A finite pattern stands for `± m · 2 ^ e` (`significand`),
and every operation here works on that exact value in `Nat` and `Int`:
`ofRatio` rounds a quotient of naturals to the nearest pattern, a tie to
the even one, and sum, product and quotient round the exact result once.
-/

namespace ScriptHost

/-- A double-precision number. -/
structure Binary64 where
  /-- Sign, exponent and fraction, from the top bit down. -/
  bits : UInt64
  deriving DecidableEq, Inhabited, Repr

namespace Binary64

/-! ## Parts of a pattern -/

/-- The fraction takes the low 52 bits. -/
def fractionModulus : Nat := 0x10000000000000

/-- The top bit is the sign. -/
def signModulus : Nat := 0x8000000000000000

/-- The pattern of positive infinity: all exponent bits set, no fraction. -/
def infinityPattern : Nat := 2047 * fractionModulus

/-- Is the sign bit set? -/
def negative (x : Binary64) : Bool := signModulus ≤ x.bits.toNat

/-- The pattern without its sign. Among numbers of one sign its order is
the order of absolute values. -/
def magnitude (x : Binary64) : Nat := x.bits.toNat % signModulus

/-- Is it a number at all? -/
def isNaN (x : Binary64) : Bool := infinityPattern < x.magnitude

/-- Is it one of the two infinities? -/
def isInfinite (x : Binary64) : Bool := x.magnitude = infinityPattern

/-- Does it stand for a rational number? -/
def isFinite (x : Binary64) : Bool := x.magnitude < infinityPattern

/-- Is it one of the two zeros? -/
def isZero (x : Binary64) : Bool := x.magnitude = 0

/-- The naturals `m` and `e` with `|x| = m · 2 ^ e`, for finite `x`. -/
def significand (x : Binary64) : Nat × Int :=
  let exponent := x.magnitude / fractionModulus
  let fraction := x.magnitude % fractionModulus
  if exponent = 0 then (fraction, -1074)
  else (fraction + fractionModulus, (exponent : Int) - 1075)

/-- `|x|` as a quotient of naturals, for finite `x`. -/
def ratio (x : Binary64) : Nat × Nat :=
  let (m, e) := x.significand
  if 0 ≤ e then (m <<< e.toNat, 1) else (m, 1 <<< (-e).toNat)

/-! ## Building numbers -/

/-- The number with the given sign and pattern. -/
def ofMagnitude (negative : Bool) (magnitude : Nat) : Binary64 :=
  ⟨UInt64.ofNat (magnitude + if negative then signModulus else 0)⟩

def zero : Binary64 := ofMagnitude false 0
def one : Binary64 := ofMagnitude false (1023 * fractionModulus)
def infinity : Binary64 := ofMagnitude false infinityPattern

/-- The quiet pattern that stands for every undefined result. -/
def nan : Binary64 := ofMagnitude false (infinityPattern + fractionModulus / 2)

/-- A quotient rounded to the nearest natural, a tie to the even one. -/
def roundHalfEven (num den : Nat) : Nat :=
  let q := num / den
  let r := num % den
  if den < 2 * r ∨ (2 * r = den ∧ q % 2 = 1) then q + 1 else q

/-- The largest `k` with `2 ^ k ≤ num / den`, for positive arguments. -/
def floorLog2 (num den : Nat) : Int :=
  let k : Int := (Nat.log2 num : Int) - (Nat.log2 den : Int)
  let below :=
    if 0 ≤ k then num < den <<< k.toNat else num <<< (-k).toNat < den
  if below then k - 1 else k

/-- The pattern nearest to a quotient of naturals. Counting the patterns
upwards from zero turns the rounded significand into the pattern, with the
carry into the exponent included. -/
def roundedMagnitude (num den : Nat) : Nat :=
  if num = 0 ∨ den = 0 then 0
  else
    let e : Int := max (floorLog2 num den - 52) (-1074)
    let q :=
      if 0 ≤ e then roundHalfEven num (den <<< e.toNat)
      else roundHalfEven (num <<< (-e).toNat) den
    min ((e + 1074).toNat * fractionModulus + q) infinityPattern

/-- The number nearest to `± num / den`. -/
def ofRatio (negative : Bool) (num den : Nat) : Binary64 :=
  ofMagnitude negative (roundedMagnitude num den)

/-- The number nearest to an integer. -/
def ofInt (i : Int) : Binary64 :=
  ofRatio (i < 0) i.natAbs 1

/-- The number nearest to `± digits · 10 ^ exponent`. Exponents far outside
the range are cut off first, so that no huge power is computed. -/
def ofDecimal (negative : Bool) (digits : Nat) (exponent : Int) : Binary64 :=
  let size : Int := (Nat.log2 digits : Int) / 4 + exponent
  if digits = 0 then ofMagnitude negative 0
  else if 400 < size then ofMagnitude negative infinityPattern
  else if (Nat.log2 digits : Int) + exponent < -400 then ofMagnitude negative 0
  else if 0 ≤ exponent then
    ofRatio negative (digits * Nat.pow 10 exponent.toNat) 1
  else ofRatio negative digits (Nat.pow 10 (-exponent).toNat)

/-! ## Arithmetic -/

/-- The number with its sign turned. -/
def neg (x : Binary64) : Binary64 := ofMagnitude (!x.negative) x.magnitude

/-- The exact sum, rounded. Zeros of different signs add up to the
positive one. -/
def add (x y : Binary64) : Binary64 :=
  if x.isNaN || y.isNaN then nan
  else if x.isInfinite then
    if y.isInfinite && x.negative != y.negative then nan else x
  else if y.isInfinite then y
  else
    let (m, e) := x.significand
    let (n, f) := y.significand
    let low := min e f
    let signed (neg : Bool) (k : Nat) : Int := if neg then -(k : Int) else k
    let s := signed x.negative (m <<< (e - low).toNat)
      + signed y.negative (n <<< (f - low).toNat)
    if s = 0 then ofMagnitude (x.negative && y.negative) 0
    else if 0 ≤ low then ofRatio (s < 0) (s.natAbs <<< low.toNat) 1
    else ofRatio (s < 0) s.natAbs (1 <<< (-low).toNat)

/-- The exact product, rounded. -/
def mul (x y : Binary64) : Binary64 :=
  let sign := x.negative != y.negative
  if x.isNaN || y.isNaN then nan
  else if x.isInfinite || y.isInfinite then
    if x.isZero || y.isZero then nan else ofMagnitude sign infinityPattern
  else
    let (a, b) := x.ratio
    let (c, d) := y.ratio
    ofRatio sign (a * c) (b * d)

/-- The exact quotient, rounded. -/
def div (x y : Binary64) : Binary64 :=
  let sign := x.negative != y.negative
  if x.isNaN || y.isNaN then nan
  else if x.isInfinite then
    if y.isInfinite then nan else ofMagnitude sign infinityPattern
  else if y.isInfinite then ofMagnitude sign 0
  else if y.isZero then
    if x.isZero then nan else ofMagnitude sign infinityPattern
  else
    let (a, b) := x.ratio
    let (c, d) := y.ratio
    ofRatio sign (a * d) (b * c)

/-! ## Integers in numbers -/

/-- The integer part, toward zero; none for the infinities and for what is
not a number. -/
def truncate? (x : Binary64) : Option Int :=
  if x.isFinite then
    let (a, b) := x.ratio
    let whole : Int := (a / b : Nat)
    some (if x.negative then -whole else whole)
  else none

/-- Is there nothing behind the point? -/
def isIntegral (x : Binary64) : Bool :=
  x.isFinite && x.ratio.1 % x.ratio.2 = 0

/-- Where a number stands in the order of numbers, as an integer. The two
zeros share one place. -/
def rank (x : Binary64) : Int :=
  if x.negative then -(x.magnitude : Int) else x.magnitude

end Binary64

end ScriptHost
