/-
ScriptHost.Script.Value — the values that scripts handle.

A value is nil, a boolean, an integer of 64 bits, a double, a string of
bytes, or the identity of a table, a function or a handle to host state.
Tables have identity, so what a table holds is kept apart (`Table`).
-/
import ScriptHost.Number.Numeral
import ScriptHost.Text.Utf8

namespace ScriptHost

/-- The identity of a table. -/
abbrev TableId := Nat

/-- The identity of a function. -/
abbrev FunctionId := Nat

/-- The identity of host state that a script object carries. -/
abbrev HandleId := Nat

/-- A value of a script. -/
inductive Value where
  | nil
  | bool (b : Bool)
  | int (i : Int64)
  | float (x : Binary64)
  | str (s : Bytes)
  | table (id : TableId)
  | func (id : FunctionId)
  | handle (id : HandleId)
  /-- The light value that stands for null in data. -/
  | null
  deriving DecidableEq, Repr, Inhabited

namespace Value

/-- The name of a value's type, as error messages show it. -/
def typeName : Value → String
  | nil => "nil"
  | bool _ => "boolean"
  | int _ => "integer"
  | float _ => "number"
  | str _ => "string"
  | table _ => "table"
  | func _ => "function"
  | handle _ => "userdata"
  | null => "lightuserdata"

/-- Is it nil? -/
def isNil : Value → Bool
  | nil => true
  | _ => false

/-- Does it count as true? -/
def truthy : Value → Bool
  | nil => false
  | bool b => b
  | _ => true

/-- The value of a text. -/
def ofText (s : String) : Value := str (Utf8.ofString s)

/-- The value of a text, or nil. -/
def ofText? : Option String → Value
  | some s => ofText s
  | none => nil

/-- The value of an integer; a double if 64 bits with a sign cannot hold
it. -/
def ofInt (i : Int) : Value :=
  if Word.isSigned i then int (Int64.ofInt i) else float (.ofInt i)

/-- The value of an integer, or nil. -/
def ofInt? : Option Int → Value
  | some i => ofInt i
  | none => nil

/-- The key that a value is in a table: a whole double is its integer. -/
def asKey : Value → Value
  | float x =>
    match x.truncate? with
    | some i =>
      if x.isIntegral && Word.isSigned i then int (Int64.ofInt i)
      else float x
    | none => float x
  | v => v

/-- Can the value be a key at all? -/
def isKey : Value → Bool
  | nil => false
  | float x => !x.isNaN
  | _ => true

/-- Is it the key of one of the items 1, 2, …, `count`? -/
def isItem (count : Nat) : Value → Bool
  | int i => 1 ≤ i.toInt && i.toInt ≤ count
  | _ => false

end Value

end ScriptHost
