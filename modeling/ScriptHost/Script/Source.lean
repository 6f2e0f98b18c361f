/-
ScriptHost.Script.Source — how scripts are written.

A script is a JSON array of steps. A step is an object with the name of the
function it calls, the value it builds, the place it reads or writes, or the
error it raises. Plain JSON values stand for themselves; an object with one
field of a special name stands for anything else: `f` for a double by its
bits, `b` for bytes, `rep` for a text repeated, `map`, `seq` and `arr` for
new tables, `fn` for a function, `null` for the light null, `ref` for what a
step has returned and `global` for what lies in the globals.
-/
import ScriptHost.Json.Decode
import ScriptHost.Json.Text
import ScriptHost.Script.Step
import ScriptHost.Text.Hex

namespace ScriptHost

namespace Value

/-- The text of the double that is no number. -/
def nanText : String := "nan"

/-- The double of a text of bits. -/
def floatOfText? (s : String) : Option Binary64 :=
  if s = nanText then some .nan
  else
    let cs := s.toList
    if cs.length = 16 && cs.all isHexDigit then
      some ⟨UInt64.ofNat (ofDigits 16 cs)⟩
    else none

/-- A text repeated. -/
def repeated (text : String) (count : Nat) : Bytes :=
  (List.replicate count (Utf8.ofString text)).flatten

/-- The value that holds nothing and that JSON stands for. -/
def ofSource? : Json → Option Value
  | .null => some .nil
  | .bool b => some (.bool b)
  | .int i =>
    if Word.isSigned i then some (.int (Int64.ofInt i)) else none
  | .float x => some (.float x)
  | .str s => some (.ofText s)
  | .obj [("f", .str bits)] => (floatOfText? bits).map .float
  | .obj [("b", .str digits)] => (Hex.decode? digits).map .str
  | .obj [("rep", .arr [.str text, .int count])] =>
    some (.str (repeated text count.toNat))
  | .obj [("null", .bool true)] => some .null
  | _ => none

end Value

namespace Expr

mutual
/-- The expression that JSON stands for. -/
def ofSource? : Json → Option Expr
  | .obj [("map", .arr js)] => (pairsOfSource? js).map .pairs
  | .obj [("seq", .arr js)] => (itemsOfSource? js).map (.items .plain)
  | .obj [("arr", .arr js)] => (itemsOfSource? js).map (.items .array)
  | .obj [("fn", .bool true)] => some .function
  | .obj [("ref", .int step)] => some (.result step.toNat [])
  | .obj [("path", .arr js), ("ref", .int step)] =>
    (itemsOfSource? js).map (.result step.toNat)
  | .obj [("global", .arr js)] => (itemsOfSource? js).map .global
  | j => (Value.ofSource? j).map .scalar

/-- The entries of a table. -/
def pairsOfSource? : List Json → Option (List (Expr × Expr))
  | [] => some []
  | .arr [k, v] :: rest => do
    let key ← ofSource? k
    let value ← ofSource? v
    let others ← pairsOfSource? rest
    pure ((key, value) :: others)
  | _ => none

/-- Expressions in a row. -/
def itemsOfSource? : List Json → Option (List Expr)
  | [] => some []
  | j :: rest => do
    let e ← ofSource? j
    let others ← itemsOfSource? rest
    pure (e :: others)
end

end Expr

namespace Callee

/-- Is it a mark between a table and a function of it? -/
def isMark (c : Char) : Bool := c = '.' || c = ':'

/-- Splits a name at its first mark: the table, the mark and the
function. -/
def split (name : String) : Option (String × Char × String) :=
  let cs := name.toList
  match cs.dropWhile fun c => !isMark c with
  | mark :: rest =>
    some (String.ofList (cs.takeWhile fun c => !isMark c), mark,
      String.ofList rest)
  | [] => none

/-- The function that a name calls. -/
def ofName (name : String) : Callee :=
  match split name with
  | some (table, ':', function) => .method table function
  | some (table, _, function) => .member table function
  | none => .global name

/-- The function of an object type that a name calls. -/
def ofClassName (name : String) : Callee :=
  match split name with
  | some (className, _, function) => .ofClass className function
  | none => .ofClass name ""

end Callee

namespace Step

open Json.Decode

/-- The arguments of a step; they may be missing. -/
def argsOfSource? (j : Json) : Option (List Expr) :=
  withDefault [] (list Expr.ofSource?) (j.field? "args")

/-- A row of keys. -/
def pathOfSource? : Json.Decoder (List Expr) := list Expr.ofSource?

/-- What the step does that JSON stands for. -/
def deedOfSource? (j : Json) : Option Deed :=
  match j.field? "call", j.field? "method", j.field? "class", j.field? "get",
      j.field? "let", j.field? "set", j.field? "raise" with
  | some (.str name), _, _, _, _, _, _ =>
    (argsOfSource? j).map (.call (.ofName name))
  | _, some (.str name), _, _, _, _, _ => do
    let object ← required Expr.ofSource? (j.field? "on")
    pure (.call (.ofObject object name) (← argsOfSource? j))
  | _, _, some (.str name), _, _, _, _ =>
    (argsOfSource? j).map (.call (.ofClassName name))
  | _, _, _, some path, _, _, _ =>
    (pathOfSource? path).map fun path => .value (.global path)
  | _, _, _, _, some e, _, _ => (Expr.ofSource? e).map .value
  | _, _, _, _, _, some path, _ => do
    let path ← pathOfSource? path
    let step ← withDefault none
      (fun r => (natUpTo Word.max32 r).map some) (j.field? "ref")
    pure (.write step path (← required Expr.ofSource? (j.field? "value")))
  | _, _, _, _, _, _, some (.str text) => some (.raise text)
  | _, _, _, _, _, _, _ => none

/-- The step that JSON stands for. -/
def ofSource? (j : Json) : Option Step := do
  let deed ← deedOfSource? j
  let mustSucceed ← withDefault false bool (j.field? "throw")
  pure { deed := deed, mustSucceed := mustSucceed }

end Step

namespace Script

/-- The script that JSON stands for. -/
def ofSource? : Json.Decoder Script := Json.Decode.list Step.ofSource?

/-- The script of a text. A text of blanks is the script without steps. -/
def parse? (text : String) : Option Script :=
  if trim text = "" then some []
  else (Json.parseDeep? text).bind ofSource?

/-- Does the steps of a script, given its text. -/
def runText {F : Type} [Dispatch F] (text : String) :
    StateM (World F) (Ended (List Record)) :=
  match parse? text with
  | some script => run script
  | none => pure ⟨[], .error (.raised .unreadable)⟩

end Script

end ScriptHost
