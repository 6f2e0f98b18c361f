/-
ScriptHost.Time.Duration — lengths of time.

`Duration.ofSeconds?` turns seconds into whole nanoseconds. `Duration.read`
reads a text such as `1h30m` or `-1.5s`: an optional sign, and then either a
zero alone or one or more numbers, each with its unit. It cuts the text at
places counted in bytes.
-/
import ScriptHost.Number.Numeral
import ScriptHost.Text.BytePlace

namespace ScriptHost.Duration

/-- Nanoseconds in a second. -/
def perSecond : Nat := 1000000000

/-- Lengths are below this many seconds. -/
def secondLimit : Nat := Word.size64

/-- The nanoseconds nearest to a number of seconds, a tie to the even one.
None for what is negative, not finite or too long. -/
def ofSeconds? (x : Binary64) : Option Nat :=
  if !x.isFinite || (x.negative && !x.isZero) then none
  else
    let (num, den) := x.ratio
    if secondLimit * den ≤ num then none
    else some (Binary64.roundHalfEven (perSecond * num) den)

/-! ## Text -/

/-- Why a text is no length of time. -/
inductive Refusal where
  /-- It has another form. -/
  | malformed
  /-- It would have been cut inside a character. -/
  | split
  deriving DecidableEq, Repr

/-- The units, with the seconds that each is, as a quotient. -/
def units : List (List Char × Binary64) :=
  let milli := Binary64.ofDecimal false 1 (-3)
  let micro := Binary64.ofDecimal false 1 (-6)
  [(['n', 's'], .ofDecimal false 1 (-9)), (['u', 's'], micro),
    (['\u00b5', 's'], micro), (['\u03bc', 's'], micro), (['m', 's'], milli),
    (['s'], .one), (['m'], .ofInt 60), (['h'], .ofInt 3600)]

/-- The seconds of a unit. -/
def unit? (cs : List Char) : Option Binary64 := units.lookup cs

/-- A character of a number. -/
def isNumberChar (c : Char) : Bool := c.isDigit || c = '.'

/-- Cuts a text at the first character of a kind, if there is one. -/
def splitFirst (p : Char → Bool) (cs : List Char) :
    Except Refusal (List Char × List Char) :=
  match splitBytes? (placeOf p cs) cs with
  | some parts => .ok parts
  | none => .error .split

/-- Goes on with what was read, if there is any. -/
def expect {α : Type} : Option α → Except Refusal α
  | some a => .ok a
  | none => .error .malformed

/-- Reads a number and its unit: the seconds that they are, and what stands
behind them. -/
def readGroup (cs : List Char) : Except Refusal (Binary64 × List Char) := do
  let (number, rest) ← splitFirst (fun c => !isNumberChar c) cs
  if number.isEmpty then throw .malformed
  let value ← expect (plainDecimal? number)
  let (unit, rest) ← splitFirst isNumberChar rest
  let scale ← expect (unit? unit)
  pure (value.mul scale, rest)

theorem splitFirst_eq (p : Char → Bool) (cs : List Char) :
    splitFirst p cs
      = .ok (cs.takeWhile fun c => !p c, cs.dropWhile fun c => !p c) := by
  rw [splitFirst, splitBytes?_placeOf]

/-- A text that begins with a number and a unit is cut behind each. -/
theorem readGroup_eq (cs : List Char) :
    readGroup cs
      = match plainDecimal? (cs.takeWhile isNumberChar),
          unit? ((cs.dropWhile isNumberChar).takeWhile
            fun c => !isNumberChar c) with
        | some value, some scale =>
          .ok (value.mul scale, (cs.dropWhile isNumberChar).dropWhile
            fun c => !isNumberChar c)
        | _, _ => .error .malformed := by
  simp only [readGroup, splitFirst_eq, Bool.not_not, bind, Except.bind]
  cases cs.takeWhile isNumberChar with
  | nil => rfl
  | cons c rest =>
    cases plainDecimal? (c :: rest) with
    | none => rfl
    | some value =>
      cases unit? ((cs.dropWhile isNumberChar).takeWhile
        fun c => !isNumberChar c) <;> rfl

/-- What stands behind a number and its unit is shorter. -/
theorem length_of_readGroup {cs rest : List Char} {seconds : Binary64}
    (h : readGroup cs = .ok (seconds, rest)) : rest.length < cs.length := by
  rw [readGroup_eq] at h
  split at h
  · rename_i hnumber _
    cases h
    have hne : cs.takeWhile isNumberChar ≠ [] := by
      intro hnil
      rw [hnil] at hnumber
      cases hnumber
    have hlength := congrArg List.length
      (List.takeWhile_append_dropWhile (p := isNumberChar) (l := cs))
    rw [List.length_append] at hlength
    have hpos := List.length_pos_iff.mpr hne
    have hrest := (List.dropWhile_sublist (l := cs.dropWhile isNumberChar)
      fun c => !isNumberChar c).length_le
    omega
  · cases h

/-- Reads numbers with their units to the end of the text, and adds them to
the seconds so far. -/
def readGroups (sum : Binary64) (cs : List Char) : Except Refusal Binary64 :=
  if cs.isEmpty then .ok sum
  else
    match _ : readGroup cs with
    | .error e => .error e
    | .ok (seconds, rest) => readGroups (sum.add seconds) rest
termination_by cs.length
decreasing_by exact length_of_readGroup ‹_›

/-- Reads a length of time, in seconds. -/
def readChars (cs : List Char) : Except Refusal Binary64 :=
  let (negative, body) := ScriptNumber.splitSign cs
  if body = ['0'] then .ok .zero
  else if body.isEmpty then .error .malformed
  else (readGroups .zero body).map fun x => if negative then x.neg else x

/-- Reads a length of time, in seconds. -/
def read (s : String) : Except Refusal Binary64 := readChars s.toList

end ScriptHost.Duration
