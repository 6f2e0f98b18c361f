/-
ScriptHost.Script.Argument — arguments of functions as typed data.

A missing argument is nil. Texts and numbers stand in for each other where
they can: a number is taken for its text, and a text that spells a number
for that number. An integer is taken from the whole part of a number, and
must then lie in its range.
-/
import ScriptHost.Script.Error
import ScriptHost.Script.Value
import ScriptHost.Json.Basic

namespace ScriptHost.Argument

/-- Reads one argument. -/
abbrev Reader (α : Type) := Value → Except ScriptError α

/-- The argument at a place, nil if it is missing. -/
def nth (args : List Value) (n : Nat) : Value := args.getD n .nil

/-- Refuses a value. -/
def refuse {α : Type} (v : Value) (target reason : String) :
    Except ScriptError α :=
  .error (.conversion v.typeName target (some reason))

/-- The bytes of a text or number. -/
def bytes? : Value → Option Bytes
  | .str s => some s
  | .int i => some (Utf8.ofString (ScriptNumber.int i).text)
  | .float x => some (Utf8.ofString (ScriptNumber.float x).text)
  | _ => none

/-- A text of any bytes. -/
def bytes : Reader Bytes := fun v =>
  match bytes? v with
  | some s => .ok s
  | none => refuse v "string" "expected string or number"

/-- Bytes that must be UTF-8; `target` names the type in the error. -/
def utf8 (target : String) (s : Bytes) : Except ScriptError String :=
  match Utf8.toString? s with
  | .ok text => .ok text
  | .error e => .error (.conversion "string" target (some e.message))

/-- A text; `target` names the type in the error on its bytes. -/
def textAs (target : String) : Reader String := fun v =>
  match bytes? v with
  | some s => utf8 target s
  | none => refuse v "String" "expected string or number"

/-- A text. -/
def text : Reader String := textAs "&str"

/-- The number that a value is or spells. -/
def number? : Value → Option ScriptNumber
  | .int i => some (.int i)
  | .float x => some (.float x)
  | .str s =>
    match Utf8.decode s with
    | .ok cs => ScriptNumber.ofChars? cs
    | .error _ => none
  | _ => none

/-- An integer type: its name and its range. -/
structure IntegerType where
  name : String
  low : Int
  high : Int

def int64 : IntegerType := ⟨"i64", Word.minSigned, Word.maxSigned⟩
def word32 : IntegerType := ⟨"u32", 0, Word.max32⟩
def word16 : IntegerType := ⟨"u16", 0, Word.max16⟩
def wordSize : IntegerType := ⟨"usize", 0, Word.max64⟩

/-- An integer of a type. -/
def integer (t : IntegerType) : Reader Int := fun v =>
  match number? v with
  | none =>
    refuse v t.name "expected number or string coercible to number"
  | some n =>
    match n.truncate? with
    | some i =>
      if t.low ≤ i ∧ i ≤ t.high then .ok i else refuse v t.name "out of range"
    | none => refuse v t.name "out of range"

/-- A double. -/
def float : Reader Binary64 := fun v =>
  match number? v with
  | some n => .ok n.toFloat
  | none => refuse v "f64" "expected number or string coercible to number"

/-- A table. -/
def table : Reader TableId
  | .table id => .ok id
  | v => .error (.conversion v.typeName "table" none)

/-- An argument that may be missing. -/
def optional {α : Type} (read : Reader α) : Reader (Option α)
  | .nil => .ok none
  | v => (read v).map some

end ScriptHost.Argument
