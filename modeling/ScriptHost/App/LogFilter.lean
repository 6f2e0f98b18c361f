/-
ScriptHost.App.LogFilter — which log lines are shown.

A filter is a list of directives with commas between them. A directive is a
level, or names a target, a span in brackets with fields in braces, or both,
and may end with an equals sign and a level. `LogFilter.check` says whether
every directive can be read.

A directive is walked through without the blanks at its ends, but its parts
are cut out of the text with them, at the places in bytes that the walk
found. So blanks in front shift every part, and a part that would then begin
or end inside a character stops the program.
-/
import ScriptHost.Number.Numeral
import ScriptHost.Pattern.Text
import ScriptHost.Text.Alphabetic
import ScriptHost.Text.Blank
import ScriptHost.Text.BytePlace
import ScriptHost.Text.Character
import ScriptHost.Text.Numeric

namespace ScriptHost.LogFilter

/-- Why a filter cannot be used. -/
inductive Fault where
  /-- A directive cannot be read. -/
  | malformed
  /-- A part of a directive begins or ends inside a character. -/
  | panicked
  deriving DecidableEq, Repr

/-! ## Levels -/

/-- The names of the levels. -/
def levelNames : List String :=
  ["off", "error", "warn", "info", "debug", "trace"]

/-- Text without a plus sign in front. -/
def dropPlus : List Char → List Char
  | '+' :: rest => rest
  | cs => cs

/-- Is it a level: a name in any case, or its number? -/
def isLevel (cs : List Char) : Bool :=
  levelNames.any (sameIgnoringCase (String.ofList cs))
    || match decimalNat? (dropPlus cs) with
      | some n => n < levelNames.length
      | none => false

/-! ## Fields -/

/-- The names of the numbers that are not finite. -/
def unboundedNames : List String := ["inf", "infinity", "nan"]

/-- Is it a number: digits with at most one point and an exponent, or the
name of one that is not finite? -/
def isNumber (cs : List Char) : Bool :=
  let (_, body) := ScriptNumber.splitSign cs
  let (whole, fraction, rest) := ScriptNumber.spanPoint Char.isDigit body
  unboundedNames.any (sameIgnoringCase (String.ofList body))
    || (!(whole.isEmpty && fraction.isEmpty)
      && (ScriptNumber.exponent? ['e', 'E'] rest).isSome)

/-- Is it a value of a field: a number or a pattern? Truth values are
patterns, too. -/
def isValue (cs : List Char) : Bool := isNumber cs || Pattern.isValid cs

/-- Is it a field: a name, and perhaps an equals sign and a value? What
stands behind a second equals sign does not count. -/
def isField (cs : List Char) : Bool :=
  match cs.splitOn '=' with
  | _ :: value :: _ => isValue value
  | _ => !cs.isEmpty

/-! ## Directives -/

/-- What is read of a directive, with the place where it begins. -/
inductive Part where
  /-- Nothing so far. -/
  | start
  /-- A level or a target. -/
  | name (first : Nat)
  | span (first : Nat)
  | field (first : Nat)
  | behindFields
  | behindSpan
  | level (first : Nat)
  deriving DecidableEq, Repr

/-- May the character begin a target? -/
def beginsName (c : Char) : Bool :=
  c = '-' || c = ':' || c = '_' || isAlphabetic c || isNumeric c

/-- What stands in a directive between two places. -/
def cut (directive : List Char) (first last : Nat) :
    Except Fault (List Char) :=
  match cutBytes? first last directive with
  | some cs => .ok cs
  | none => .error .panicked

/-- Goes on where a part is cut off before `place`. -/
def endPart (directive : List Char) (first place : Nat) (next : Part) :
    Except Fault Part :=
  (cut directive first place).map fun _ => next

/-- What is read behind the character at `place`. -/
def Part.step (directive : List Char) (place : Nat) (c : Char) :
    Part → Except Fault Part
  | start =>
    if c = '[' then .ok (span (place + 1))
    else if beginsName c then .ok (name place)
    else .error .malformed
  | name first =>
    if c = '=' then endPart directive first place (level (place + 1))
    else if c = '[' then endPart directive first place (span (place + 1))
    else .ok (name first)
  | span first =>
    if c = ']' then endPart directive first place behindSpan
    else if c = '\x7b' then endPart directive first place (field (place + 1))
    else .ok (span first)
  | field first =>
    if c = '\x7d' then do
      if isField (← cut directive first place) then .ok behindFields
      else .error .malformed
    else .ok (field first)
  | behindFields =>
    if c = ']' then .ok behindSpan else .error .malformed
  | behindSpan =>
    if c = '=' then .ok (level (place + 1)) else .error .malformed
  | level first => .ok (level first)

/-- Ends a directive. -/
def Part.finish (directive : List Char) : Part → Except Fault Unit
  | name first => (cut directive first (byteLength directive)).map fun _ => ()
  | behindSpan => .ok ()
  | level first => do
    let text ← cut directive first (byteLength directive)
    if text.isEmpty || isLevel text then .ok () else .error .malformed
  | _ => .error .malformed

/-- Walks through the characters that begin at `place`. -/
def walk (directive : List Char) (place : Nat) (part : Part) :
    List Char → Except Fault Unit
  | [] => part.finish directive
  | c :: rest => do
    walk directive (place + c.utf8Size)
      (← part.step directive place c) rest

/-- Reads a directive. -/
def checkDirective (directive : List Char) : Except Fault Unit :=
  walk directive 0 .start (trimChars directive)

/-- Reads a filter. Empty directives are skipped, and the first that cannot
be read decides. -/
def check (filter : String) : Except Fault Unit :=
  ((filter.toList.splitOn ',').filter fun cs => !cs.isEmpty).forM
    checkDirective

end ScriptHost.LogFilter
