/-
ScriptHost.Url.IpAddress — the texts of network addresses.

`isIpv4` takes one to four numbers with dots between them; each may be
decimal, octal behind a zero or hexadecimal behind `0x`, and the last one
fills all places that are left. `isIpv6` takes eight groups of up to four
hexadecimal digits with colons between them; two colons stand for as many
zero groups as are missing, and four decimal numbers for the last two.
-/
import ScriptHost.Number.Numeral

namespace ScriptHost.IpAddress

/-! ## Four numbers -/

/-- The base and the digits of a number. -/
def baseOf (cs : List Char) : Nat × List Char :=
  match ScriptNumber.dropHexMark? cs with
  | some digits => (16, digits)
  | none =>
    match cs with
    | '0' :: c :: rest => (8, c :: rest)
    | _ => (10, cs)

/-- Is it a digit of the base? -/
def isDigitOf (base : Nat) (c : Char) : Bool :=
  match hexValue? c with
  | some v => v < base
  | none => false

/-- The number that a part of an address spells. The mark of hexadecimal
digits alone is zero. -/
def number? (cs : List Char) : Option Nat :=
  if cs.isEmpty then none
  else
    let (base, digits) := baseOf cs
    if digits.all (isDigitOf base) then some (ofDigits base digits) else none

/-- The parts between dots; an empty one at the end does not count. -/
def parts (cs : List Char) : List (List Char) :=
  let all := cs.splitOn '.'
  if all.getLast? = some [] then all.dropLast else all

/-- Must the text be read as four numbers? It must if its last part is a
number or at least all digits. -/
def endsInNumber (cs : List Char) : Bool :=
  match (parts cs).getLast? with
  | some last =>
    !last.isEmpty && (last.all Char.isDigit || (number? last).isSome)
  | none => false

/-- Is it an address of one to four numbers? -/
def isIpv4 (cs : List Char) : Bool :=
  match (parts cs).mapM number? with
  | some numbers =>
    match numbers.reverse with
    | last :: front =>
      front.length ≤ 3 && front.all (· < 256)
        && last < Nat.pow 256 (4 - front.length)
    | [] => false
  | none => false

/-! ## Eight groups -/

/-- Groups there are in all. -/
def groupCount : Nat := 8

/-- Is it a number below 256 in decimal digits without zeros in front? -/
def isByte (cs : List Char) : Bool :=
  !cs.isEmpty && cs.all Char.isDigit && ofDigits 10 cs < 256
    && (cs.length = 1 || cs.head? ≠ some '0')

/-- Are they four decimal numbers? -/
def isFourBytes (cs : List Char) : Bool :=
  let numbers := cs.splitOn '.'
  numbers.length = 4 && numbers.all isByte

/-- Is it a group of hexadecimal digits? -/
def isGroup (cs : List Char) : Bool :=
  !cs.isEmpty && cs.length ≤ 4 && cs.all isHexDigit

/-- How many groups the pieces between colons are. Only the last piece may
be four decimal numbers, and counts twice. -/
def countGroups? : List (List Char) → Option Nat
  | [] => some 0
  | [last] =>
    if isGroup last then some 1
    else if isFourBytes last then some 2
    else none
  | piece :: rest =>
    if isGroup piece then (countGroups? rest).map (· + 1) else none

/-- The groups of a row, which may be empty. -/
def row? (cs : List Char) : Option Nat :=
  if cs.isEmpty then some 0 else countGroups? (cs.splitOn ':')

/-- Cuts characters at the first two colons in a row. -/
def cutGap : List Char → Option (List Char × List Char)
  | ':' :: ':' :: rest => some ([], rest)
  | c :: rest => (cutGap rest).map fun (front, back) => (c :: front, back)
  | [] => none

/-- Is it an address of eight groups? -/
def isIpv6 (cs : List Char) : Bool :=
  match cutGap cs with
  | some (front, back) =>
    match row? front, row? back with
    | some a, some b =>
      a + b < groupCount && (front.isEmpty || !front.contains '.')
    | _, _ => false
  | none => row? cs = some groupCount

end ScriptHost.IpAddress
