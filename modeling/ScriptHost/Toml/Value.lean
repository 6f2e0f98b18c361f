/-
ScriptHost.Toml.Value — values of configuration files.

Beside what JSON has, a configuration value may be a date or time, kept as
its normal text. A table keeps its fields in the order in which they were
written. `Toml.data` gives the value as JSON data with every double as it
is; `Toml.view` gives it as JSON text can hold it, with null for a double
that is not finite.
-/
import ScriptHost.Json.Basic

namespace ScriptHost

/-- A value of a configuration file. -/
inductive Toml where
  | str (s : String)
  | int (i : Int64)
  | float (x : Binary64)
  | bool (b : Bool)
  /-- A date, a time, or both. -/
  | date (text : String)
  | arr (items : List Toml)
  | table (fields : List (String × Toml))
  deriving Inhabited, Repr

namespace Toml

/-- The one field of the object that stands for a date. -/
def dateField : String := "$__toml_private_datetime"

mutual
/-- The value as JSON data. -/
def data : Toml → Json
  | str s => .str s
  | int i => .int i.toInt
  | float x => .float x
  | bool b => .bool b
  | date t => .obj [(dateField, .str t)]
  | arr items => .arr (dataItems items)
  | table fields => .obj (dataFields fields)

/-- `data` for the items of an array. -/
def dataItems : List Toml → List Json
  | [] => []
  | t :: rest => data t :: dataItems rest

/-- `data` for the fields of a table. -/
def dataFields : List (String × Toml) → List (String × Json)
  | [] => []
  | (k, t) :: rest => Fields.insert k (data t) (dataFields rest)
end

mutual
/-- The value as JSON text can hold it. -/
def view : Toml → Json
  | str s => .str s
  | int i => .int i.toInt
  | float x => if x.isFinite then .float x else .null
  | bool b => .bool b
  | date t => .obj [(dateField, .str t)]
  | arr items => .arr (viewItems items)
  | table fields => .obj (viewFields fields)

/-- `view` for the items of an array. -/
def viewItems : List Toml → List Json
  | [] => []
  | t :: rest => view t :: viewItems rest

/-- `view` for the fields of a table. -/
def viewFields : List (String × Toml) → List (String × Json)
  | [] => []
  | (k, t) :: rest => Fields.insert k (view t) (viewFields rest)
end

end Toml

end ScriptHost
