/-
ScriptHost.Json.Basic — JSON values.

Data that crosses from the host to a script or back is a `Json` value.
Integers are kept apart from doubles. An object is a row of fields; the
functions of this library build rows in key order (`Json.Ordered`), so two
objects with the same fields are equal.
-/
import ScriptHost.Data.KeyMap
import ScriptHost.Number.Binary64
import ScriptHost.Number.Word

namespace ScriptHost

/-- A JSON value. -/
inductive Json where
  | null
  | bool (b : Bool)
  | int (i : Int)
  | float (x : Binary64)
  | str (s : String)
  | arr (items : List Json)
  | obj (fields : List (String × Json))
  deriving Inhabited, Repr

namespace Json

/-- Is it null? -/
def isNull : Json → Bool
  | null => true
  | _ => false

/-- Is it an object? -/
def isObject : Json → Bool
  | obj _ => true
  | _ => false

/-- The boolean, if it is one. -/
def bool? : Json → Option Bool
  | bool b => some b
  | _ => none

/-- The field of an object. -/
def field? (key : String) : Json → Option Json
  | obj fields => Fields.find? key fields
  | _ => none

/-- The object with the given fields, in key order. -/
def ofPairs (pairs : List (String × Json)) : Json :=
  obj (Fields.ofList pairs)

/-- The object with the entries of a map. -/
def ofMap (map : KeyMap Json) : Json := obj map.entries

/-- The value, or null in place of none. -/
def ofOption {α : Type} (f : α → Json) : Option α → Json
  | some a => f a
  | none => null

/-! ## Objects in key order -/

mutual
/-- Do the fields of every object stand in key order, each name once? -/
def Ordered : Json → Prop
  | arr items => OrderedItems items
  | obj fields => Fields.Sorted fields ∧ OrderedFields fields
  | _ => True

/-- `Ordered` for every item of an array. -/
def OrderedItems : List Json → Prop
  | [] => True
  | j :: rest => Ordered j ∧ OrderedItems rest

/-- `Ordered` for every value of an object. -/
def OrderedFields : List (String × Json) → Prop
  | [] => True
  | (_, j) :: rest => Ordered j ∧ OrderedFields rest
end

end Json

end ScriptHost
