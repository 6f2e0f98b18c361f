/-
ScriptHost.Json.Decode — typed data from JSON values.

A decoder takes a value and yields typed data or nothing. Kinds are never
mixed: a double is no integer, a number is no text. A record is read from an
object by field name, or from an array by position.
-/
import ScriptHost.Json.Basic

namespace ScriptHost.Json

/-- Reads typed data from a value. -/
abbrev Decoder (α : Type) := Json → Option α

namespace Decode

/-- A text. -/
def text : Decoder String
  | str s => some s
  | _ => none

/-- A boolean. -/
def bool : Decoder Bool := Json.bool?

/-- An integer between two bounds, ends included. -/
def intIn (low high : Int) : Decoder Int
  | int i => if low ≤ i ∧ i ≤ high then some i else none
  | _ => none

/-- An integer of 64 bits with a sign. -/
def int64 : Decoder Int := intIn Word.minSigned Word.maxSigned

/-- A natural number up to a bound. -/
def natUpTo (high : Nat) : Decoder Nat := fun j =>
  (intIn 0 high j).map Int.toNat

/-- A list of data. -/
def list {α : Type} (item : Decoder α) : Decoder (List α)
  | arr items => items.mapM item
  | _ => none

/-- A map of data. -/
def map {α : Type} (item : Decoder α) : Decoder (KeyMap α)
  | obj fields => do
    let pairs ← fields.mapM fun (k, j) => (item j).map (k, ·)
    pure (KeyMap.ofList pairs)
  | _ => none

/-- Data, or null for none. -/
def optional {α : Type} (item : Decoder α) : Decoder (Option α)
  | null => some none
  | j => (item j).map some

/-- The places of a record: the field of each name, or the item at its
position. An array that is longer than the record is refused if `exact`. -/
def slots (exact : Bool) (names : List String) :
    Decoder (List (Option Json))
  | obj fields => some (names.map fun name => Fields.find? name fields)
  | arr items =>
    if exact && names.length < items.length then none
    else some ((List.range names.length).map fun n => items[n]?)
  | _ => none

/-- What a place must hold. -/
def required {α : Type} (item : Decoder α) : Option Json → Option α
  | some j => item j
  | none => none

/-- What a place may hold, with a value in the place of nothing. -/
def withDefault {α : Type} (default : α) (item : Decoder α) :
    Option Json → Option α
  | some j => item j
  | none => some default

end Decode

end ScriptHost.Json
