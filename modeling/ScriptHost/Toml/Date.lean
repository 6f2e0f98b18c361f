/-
ScriptHost.Toml.Date — dates and times of configuration files.

A `DateTime` is a date, a time of day, or both, perhaps with a distance from
universal time. `DateTime.text` writes its one normal form: four digits for
the year, a `T` before the time, no zeros at the end of the fraction.
`DateTime.read?` takes one off the front of a configuration text, and
`DateTime.normalize?` brings a text that is nothing else to normal form.
-/
import ScriptHost.Time.Civil
import ScriptHost.Number.Numeral

namespace ScriptHost

/-- A time of day. A minute may have a second number 60. -/
structure ClockTime where
  hour : Nat
  minute : Nat
  second : Nat
  nanosecond : Nat := 0
  deriving DecidableEq, Repr

/-- The distance from universal time. -/
inductive Offset where
  /-- Universal time itself. -/
  | utc
  /-- So many minutes ahead of it. -/
  | ahead (minutes : Int)
  deriving DecidableEq, Repr

/-- A date, a time of day, or both. -/
structure DateTime where
  date : Option Date
  time : Option ClockTime
  offset : Option Offset := none
  deriving DecidableEq, Repr

/-! ## Writing -/

/-- Year, month and day with hyphens between them. -/
def Date.chars (d : Date) : List Char :=
  Decimal.paddedChars 4 d.year.toNat ++ '-' :: Decimal.paddedChars 2 d.month
    ++ '-' :: Decimal.paddedChars 2 d.day

/-- Hour, minute and second with colons between them, and a fraction if
there is one. -/
def ClockTime.chars (t : ClockTime) : List Char :=
  let fraction :=
    if t.nanosecond = 0 then []
    else '.' :: Decimal.dropTrailingZeros (Decimal.paddedChars 9 t.nanosecond)
  Decimal.paddedChars 2 t.hour ++ ':' :: Decimal.paddedChars 2 t.minute
    ++ ':' :: Decimal.paddedChars 2 t.second ++ fraction

/-- `Z`, or a sign with hours and minutes. -/
def Offset.chars : Offset → List Char
  | utc => ['Z']
  | ahead m =>
    (if m < 0 then '-' else '+') :: (Decimal.paddedChars 2 (m.natAbs / 60)
      ++ ':' :: Decimal.paddedChars 2 (m.natAbs % 60))

namespace DateTime

/-- The normal form of a date or time. -/
def text (d : DateTime) : String :=
  let date := (d.date.map Date.chars).getD []
  let mark := if d.date.isSome && d.time.isSome then ['T'] else []
  let time := (d.time.map ClockTime.chars).getD []
  let offset := (d.offset.map Offset.chars).getD []
  String.ofList (date ++ mark ++ time ++ offset)

/-! ## Reading -/

/-- Takes a number of exactly so many digits off the front. -/
def digits? (count : Nat) (cs : List Char) : Option (Nat × List Char) :=
  let front := cs.take count
  if front.length = count && front.all Char.isDigit then
    some (ofDigits 10 front, cs.drop count)
  else none

/-- Takes one given character off the front. -/
def mark? (c : Char) : List Char → Option (List Char)
  | d :: rest => if d = c then some rest else none
  | [] => none

/-- Takes a date off the front. -/
def date? (cs : List Char) : Option (Date × List Char) := do
  let (year, cs) ← digits? 4 cs
  let cs ← mark? '-' cs
  let (month, cs) ← digits? 2 cs
  let cs ← mark? '-' cs
  let (day, cs) ← digits? 2 cs
  let d : Date := ⟨year, month, day⟩
  if d.isValid then some (d, cs) else none

/-- The nanoseconds that the digits of a fraction give; digits behind the
ninth are left out. -/
def nanoseconds (digits : List Char) : Nat :=
  let kept := digits.take 9
  ofDigits 10 kept * Nat.pow 10 (9 - kept.length)

/-- Takes a time of day off the front. -/
def time? (cs : List Char) : Option (ClockTime × List Char) := do
  let (hour, cs) ← digits? 2 cs
  let cs ← mark? ':' cs
  let (minute, cs) ← digits? 2 cs
  let cs ← mark? ':' cs
  let (second, cs) ← digits? 2 cs
  if 23 < hour ∨ 59 < minute ∨ 60 < second then none
  else match cs with
    | '.' :: rest =>
      let (fraction, tail) := spanDigits rest
      if fraction.isEmpty then none
      else some (⟨hour, minute, second, nanoseconds fraction⟩, tail)
    | _ => some (⟨hour, minute, second, 0⟩, cs)

/-- Takes a distance from universal time off the front. It is less than a
day. -/
def offset? (cs : List Char) : Option (Offset × List Char) := do
  match cs with
  | [] => none
  | c :: rest =>
    if c = 'Z' ∨ c = 'z' then some (.utc, rest)
    else if c = '+' ∨ c = '-' then
      let (hours, rest) ← digits? 2 rest
      let rest ← mark? ':' rest
      let (minutes, rest) ← digits? 2 rest
      let total := hours * 60 + minutes
      if 23 < hours ∨ 59 < minutes then none
      else some (.ahead (if c = '-' then -(total : Int) else total), rest)
    else none

/-- May the character stand between date and time? -/
def isJoint (c : Char) : Bool := c = 'T' || c = 't' || c = ' '

/-- Takes a date, a time or both off the front. -/
def read? (cs : List Char) : Option (DateTime × List Char) :=
  match date? cs with
  | none => (time? cs).map fun (t, rest) => (⟨none, some t, none⟩, rest)
  | some (d, rest) =>
    let alone := some (⟨some d, none, none⟩, rest)
    match rest with
    | [] => alone
    | c :: behind =>
      if !isJoint c then alone
      else match time? behind with
        | none => alone
        | some (t, tail) =>
          match offset? tail with
          | none => some (⟨some d, some t, none⟩, tail)
          | some (o, tail) => some (⟨some d, some t, some o⟩, tail)

/-- Reads the end of a text: a distance or nothing. -/
def finish? (d : DateTime) (cs : List Char) : Option DateTime :=
  if cs.isEmpty then some d
  else match offset? cs with
    | some (o, []) => some { d with offset := some o }
    | _ => none

/-- Reads a text that is one date or time. -/
def ofChars? (cs : List Char) : Option DateTime :=
  if cs[2]? = some ':' then
    match time? cs with
    | some (t, []) => some ⟨none, some t, none⟩
    | _ => none
  else do
    let (d, rest) ← date? cs
    match rest with
    | c :: behind =>
      if isJoint c then
        let (t, tail) ← time? behind
        finish? ⟨some d, some t, none⟩ tail
      else none
    | [] => some ⟨some d, none, none⟩

/-- The normal form of a text that is one date or time. -/
def normalize? (s : String) : Option String := (ofChars? s.toList).map text

end DateTime

end ScriptHost
