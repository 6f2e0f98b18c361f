/-
ScriptHost.Number.Decimal — decimal numbers and their two written forms.

A `Decimal` is `digits · 10 ^ exponent`. `positional` writes it with a point
and no exponent, `mantissa` with one digit before the point. The form that
fits a text format, and where one changes to the other, is decided by the
format.
-/

namespace ScriptHost

/-- The number `digits · 10 ^ exponent`. -/
structure Decimal where
  digits : Nat
  exponent : Int
  deriving DecidableEq, Repr

namespace Decimal

/-- The decimal digits of a natural, as characters. -/
def digitChars (n : Nat) : List Char := Nat.toDigits 10 n

/-- The decimal digits of an integer, with a minus if it is negative. -/
def intChars (i : Int) : List Char :=
  if i < 0 then '-' :: digitChars i.natAbs else digitChars i.natAbs

/-- The text of an integer. -/
def intText (i : Int) : String := String.ofList (intChars i)

/-- A number with zeros in front up to a width. -/
def paddedChars (width n : Nat) : List Char :=
  let digits := digitChars n
  List.replicate (width - digits.length) '0' ++ digits

/-- The text of a number with zeros in front up to a width. -/
def padded (width n : Nat) : String := String.ofList (paddedChars width n)

/-- Digits without the zeros at their end. -/
def dropTrailingZeros (cs : List Char) : List Char :=
  (cs.reverse.dropWhile (· = '0')).reverse

/-- The same number with the fewest digits. -/
def reduce (d : Decimal) : Decimal :=
  let cs := digitChars d.digits
  let kept := dropTrailingZeros cs
  let dropped := cs.length - kept.length
  if d.digits = 0 then ⟨0, 0⟩
  else ⟨d.digits / Nat.pow 10 dropped, d.exponent + dropped⟩

/-- The power of ten of the first digit. -/
def leadingExponent (d : Decimal) : Int :=
  ((digitChars d.digits).length : Int) + d.exponent - 1

/-- Digits with a point: `point` of them stand before it, with zeros put in
where there are none. An integer is written without point. -/
def placePoint (cs : List Char) (point : Int) : List Char :=
  if point ≤ 0 then '0' :: '.' :: (List.replicate (-point).toNat '0' ++ cs)
  else if (cs.length : Int) ≤ point then
    cs ++ List.replicate (point.toNat - cs.length) '0'
  else cs.take point.toNat ++ '.' :: cs.drop point.toNat

/-- The number without an exponent. -/
def positional (d : Decimal) : List Char :=
  placePoint (digitChars d.digits) (d.leadingExponent + 1)

/-- The digits with a point behind the first one, for a form in which an
exponent follows. -/
def mantissa (d : Decimal) : List Char :=
  placePoint (digitChars d.digits) 1

/-- Text that holds a point as it is, other text with `.0` behind it. -/
def withPoint (cs : List Char) : List Char :=
  if cs.contains '.' then cs else cs ++ ['.', '0']

end Decimal

end ScriptHost
