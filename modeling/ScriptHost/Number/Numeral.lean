/-
ScriptHost.Number.Numeral — numbers in text.

`plainDecimal?` reads digits with at most one point, the form inside a
duration. `ScriptNumber.ofChars?` reads what a script may write where a
number is expected: blanks around it, a sign, decimal or hexadecimal digits,
a point, an exponent. `ScriptNumber.text` writes a number the way scripts
see it.
-/
import ScriptHost.Number.Shortest
import ScriptHost.Number.Word

namespace ScriptHost

/-! ## Digits -/

/-- The value of a decimal digit. -/
def digitValue (c : Char) : Nat := c.toNat - '0'.toNat

/-- The value of a hexadecimal digit. -/
def hexValue? (c : Char) : Option Nat :=
  if c.isDigit then some (digitValue c)
  else if 'a' ≤ c ∧ c ≤ 'f' then some (c.toNat - 'a'.toNat + 10)
  else if 'A' ≤ c ∧ c ≤ 'F' then some (c.toNat - 'A'.toNat + 10)
  else none

/-- Is it a hexadecimal digit? -/
def isHexDigit (c : Char) : Bool := (hexValue? c).isSome

/-- The natural that digits of a base spell. -/
def ofDigits (base : Nat) (cs : List Char) : Nat :=
  cs.foldl (fun acc c => acc * base + (hexValue? c).getD 0) 0

/-- The natural that a nonempty row of decimal digits spells. -/
def decimalNat? (cs : List Char) : Option Nat :=
  if cs.isEmpty || !cs.all Char.isDigit then none else some (ofDigits 10 cs)

/-- Splits off the digits in front. -/
def spanDigits (cs : List Char) : List Char × List Char :=
  (cs.takeWhile Char.isDigit, cs.dropWhile Char.isDigit)

/-! ## Digits with a point -/

/-- Reads digits with at most one point among them and at least one digit. -/
def plainDecimal? (cs : List Char) : Option Binary64 :=
  let (whole, rest) := spanDigits cs
  match rest with
  | [] =>
    if whole.isEmpty then none
    else some (.ofDecimal false (ofDigits 10 whole) 0)
  | '.' :: fraction =>
    if !fraction.all Char.isDigit || (whole.isEmpty && fraction.isEmpty) then
      none
    else
      some (.ofDecimal false (ofDigits 10 (whole ++ fraction))
        (-(fraction.length : Int)))
  | _ => none

/-! ## Numbers in scripts -/

/-- A number of a script: an integer of 64 bits or a double. -/
inductive ScriptNumber where
  | int (i : Int64)
  | float (x : Binary64)
  deriving DecidableEq, Repr

namespace ScriptNumber

/-- Blanks that may stand around a numeral. -/
def isBlank (c : Char) : Bool :=
  c = ' ' || ('\t' ≤ c && c ≤ '\r')

/-- The number as a double. -/
def toFloat : ScriptNumber → Binary64
  | int i => .ofInt i.toInt
  | float x => x

/-- The integer part of the number, if it has one. -/
def truncate? : ScriptNumber → Option Int
  | int i => some i.toInt
  | float x => x.truncate?

/-- Takes a sign off: is it a minus, and what follows? -/
def splitSign : List Char → Bool × List Char
  | '-' :: rest => (true, rest)
  | '+' :: rest => (false, rest)
  | cs => (false, cs)

/-- Takes the mark of hexadecimal digits off. -/
def dropHexMark? : List Char → Option (List Char)
  | '0' :: 'x' :: rest => some rest
  | '0' :: 'X' :: rest => some rest
  | _ => none

/-- Reads an integer. Decimal digits must stay within 64 bits; hexadecimal
ones wrap around. -/
def integer? (cs : List Char) : Option Int64 :=
  let (negative, body) := splitSign cs
  let signed (n : Nat) : Int := if negative then -(n : Int) else n
  match dropHexMark? body with
  | some digits =>
    if digits.isEmpty || !digits.all isHexDigit then none
    else some (Int64.ofInt (signed (ofDigits 16 digits)))
  | none =>
    match decimalNat? body with
    | some n =>
      if Word.isSigned (signed n) then some (Int64.ofInt (signed n))
      else none
    | none => none

/-- Reads the exponent behind a letter of `marks`: a sign and digits to the
end of the text. No text at all is the exponent zero. -/
def exponent? (marks : List Char) : List Char → Option Int
  | [] => some 0
  | c :: rest =>
    if marks.contains c then
      let (negative, digits) := splitSign rest
      (decimalNat? digits).map fun n => if negative then -(n : Int) else n
    else none

/-- Splits digits, a point and more digits off the front. -/
def spanPoint (isDigit : Char → Bool) (cs : List Char) :
    List Char × List Char × List Char :=
  let whole := cs.takeWhile isDigit
  match cs.dropWhile isDigit with
  | '.' :: rest => (whole, rest.takeWhile isDigit, rest.dropWhile isDigit)
  | rest => (whole, [], rest)

/-- Reads a double in decimal digits. -/
def decimalFloat? (negative : Bool) (cs : List Char) : Option Binary64 :=
  let (whole, fraction, rest) := spanPoint Char.isDigit cs
  if whole.isEmpty && fraction.isEmpty then none
  else (exponent? ['e', 'E'] rest).map fun e =>
    .ofDecimal negative (ofDigits 10 (whole ++ fraction))
      (e - (fraction.length : Int))

/-- Reads a double in hexadecimal digits with a binary exponent. The
exponent is cut off far outside the range of doubles. -/
def hexFloat? (negative : Bool) (cs : List Char) : Option Binary64 :=
  let (whole, fraction, rest) := spanPoint isHexDigit cs
  if whole.isEmpty && fraction.isEmpty then none
  else (exponent? ['p', 'P'] rest).map fun e =>
    let n := ofDigits 16 (whole ++ fraction)
    let size : Int := (Nat.log2 n : Int)
    let shift := max (-size - 1200)
      (min (e - 4 * (fraction.length : Int)) 1200)
    if 0 ≤ shift then .ofRatio negative (n <<< shift.toNat) 1
    else .ofRatio negative n (1 <<< (-shift).toNat)

/-- Reads a number: an integer if it is one, else a double. -/
def ofChars? (cs : List Char) : Option ScriptNumber :=
  let body := ((cs.dropWhile isBlank).reverse.dropWhile isBlank).reverse
  match integer? body with
  | some i => some (.int i)
  | none =>
    let (negative, rest) := splitSign body
    match dropHexMark? rest with
    | some digits => (hexFloat? negative digits).map .float
    | none => (decimalFloat? negative rest).map .float

/-- How many significant digits a script sees of a double. -/
def shownDigits : Nat := 14

/-- An exponent with its sign and at least two digits. -/
def exponentChars (e : Int) : List Char :=
  let digits := Decimal.digitChars e.natAbs
  (if e < 0 then '-' else '+') ::
    (if digits.length < 2 then '0' :: digits else digits)

/-- A double in at most fourteen significant digits, without zeros at the
end of the fraction. Numbers below 0.0001 and those of more than fourteen
digits before the point get an exponent; a number that would look like an
integer gets `.0`. -/
def floatText (x : Binary64) : String :=
  let sign := if x.negative then ['-'] else []
  if x.isNaN then "nan"
  else if x.isInfinite then String.ofList (sign ++ "inf".toList)
  else if x.isZero then String.ofList (sign ++ ['0', '.', '0'])
  else
    let d := (x.significantDigits shownDigits).reduce
    let e := d.leadingExponent
    if -4 ≤ e ∧ e < shownDigits then
      String.ofList (sign ++ Decimal.withPoint d.positional)
    else String.ofList (sign ++ d.mantissa ++ 'e' :: exponentChars e)

/-- A number as a script writes it. -/
def text : ScriptNumber → String
  | int i => Decimal.intText i.toInt
  | float x => floatText x

end ScriptNumber

end ScriptHost
