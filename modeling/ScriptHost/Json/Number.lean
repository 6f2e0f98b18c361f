/-
ScriptHost.Json.Number — how numbers are spelled in JSON text.

An integer is its digits. A double has the fewest digits that read back,
with a point and no exponent while its leading digit stands at a power of
ten from -5 to 15 (`floatChars`). The reader `Number.read?` takes the
strict grammar: no zero in front, digits behind a point. Digits are
gathered while they fit 64 bits, later ones count only as powers of ten,
and a double is the gathered integer scaled once by a power of ten; text
beyond the largest double is refused.
-/
import ScriptHost.Json.Basic
import ScriptHost.Number.Numeral

namespace ScriptHost.Json.Number

/-! ## Writing -/

/-- The least power of ten of the leading digit that needs no exponent. -/
def leastPositional : Int := -5

/-- The largest one. -/
def largestPositional : Int := 15

/-- The text of a finite double. -/
def floatChars (x : Binary64) : List Char :=
  let sign := if x.negative then ['-'] else []
  if x.isZero then sign ++ ['0', '.', '0']
  else
    let d := x.shortest
    let e := d.leadingExponent
    if leastPositional ≤ e ∧ e ≤ largestPositional then
      sign ++ Decimal.withPoint d.positional
    else
      let mantissa :=
        if (Decimal.digitChars d.digits).length = 1 then
          Decimal.digitChars d.digits
        else d.mantissa
      sign ++ mantissa ++ 'e' :: (if e < 0 then '-' else '+') ::
        Decimal.digitChars e.natAbs

/-! ## Reading -/

/-- Digits gathered so far: the integer they form, the power of ten it
stands at, and whether a digit did not fit any more. -/
structure Gathered where
  value : Nat
  exponent : Int
  full : Bool

/-- Takes a digit of the integer part. -/
def Gathered.whole (g : Gathered) (c : Char) : Gathered :=
  let next := g.value * 10 + digitValue c
  if g.full || Word.max64 < next then
    { g with exponent := g.exponent + 1, full := true }
  else { g with value := next }

/-- Takes a digit behind the point; once one does not fit, the rest is
left out. -/
def Gathered.fraction (g : Gathered) (c : Char) : Gathered :=
  let next := g.value * 10 + digitValue c
  if g.full || Word.max64 < next then { g with full := true }
  else { g with value := next, exponent := g.exponent - 1 }

/-- `10 ^ k` as a double. -/
def powerOfTen (k : Nat) : Binary64 := .ofRatio false (Nat.pow 10 k) 1

/-- Powers of ten up to this one are doubles. -/
def largestPower : Nat := 308

/-- Divides by a power of ten, in steps that doubles can hold. -/
def scaleDown (x : Binary64) (k : Nat) : Binary64 :=
  if k ≤ largestPower then x.div (powerOfTen k)
  else if x.isZero then x
  else scaleDown (x.div (powerOfTen largestPower)) (k - largestPower)
termination_by k
decreasing_by simp only [largestPower] at *; omega

/-- `value · 10 ^ exponent`, none if it is beyond the largest double. -/
def scale? (value : Nat) (exponent : Int) : Option Binary64 :=
  let x := Binary64.ofInt value
  if exponent < 0 then some (scaleDown x exponent.natAbs)
  else if exponent ≤ largestPower then
    let y := x.mul (powerOfTen exponent.toNat)
    if y.isInfinite then none else some y
  else if x.isZero then some x
  else none

/-- The exponent digits that are still taken at their value. -/
def exponentLimit : Nat := 0x7FFFFFFF

/-- Reads the exponent behind its letter: a sign and at least one digit. -/
def exponent? (cs : List Char) : Option Int :=
  let (negative, digits) := ScriptNumber.splitSign cs
  (decimalNat? digits).map fun n => if negative then -(n : Int) else n

/-- A double from its sign, its gathered digits and its exponent. -/
def float? (negative : Bool) (g : Gathered) (e : Int) : Option Json :=
  let signed (x : Binary64) : Json := float (if negative then x.neg else x)
  if (exponentLimit : Int) < e.natAbs then
    if g.value = 0 ∨ e < 0 then some (signed .zero) else none
  else (scale? g.value (g.exponent + e)).map signed

/-- An integer from its sign and digits; a double if 64 bits with that sign
cannot hold it, and for the negative zero. -/
def integer (negative : Bool) (value : Nat) : Json :=
  if !negative then int value
  else if value = 0 ∨ Word.maxSigned + 1 < value then
    float (Binary64.ofInt value).neg
  else int (-(value : Int))

/-- Splits the integer digits off; a zero stands alone. -/
def splitWhole? (cs : List Char) : Option (List Char × List Char) :=
  let (digits, rest) := spanDigits cs
  match digits with
  | [] => none
  | ['0'] => some (digits, rest)
  | '0' :: _ => none
  | _ => some (digits, rest)

/-- A double from its sign, its gathered digits and what follows them: an
exponent or nothing. -/
def withExponent? (negative : Bool) (g : Gathered) :
    List Char → Option Json
  | [] => float? negative g 0
  | c :: rest =>
    if c = 'e' ∨ c = 'E' then (exponent? rest).bind (float? negative g)
    else none

/-- Reads the text of a number. -/
def read? (cs : List Char) : Option Json := do
  let (negative, body) := match cs with
    | '-' :: rest => (true, rest)
    | _ => (false, cs)
  let (digits, rest) ← splitWhole? body
  let g := digits.foldl Gathered.whole ⟨0, 0, false⟩
  match rest with
  | [] =>
    if g.full then float? negative g 0 else some (integer negative g.value)
  | '.' :: behind =>
    let (fraction, tail) := spanDigits behind
    if fraction.isEmpty then none
    else
      let start := { g with full := false }
      withExponent? negative (fraction.foldl Gathered.fraction start) tail
  | _ => withExponent? negative g rest

end ScriptHost.Json.Number
