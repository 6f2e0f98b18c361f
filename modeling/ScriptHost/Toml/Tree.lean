/-
ScriptHost.Toml.Tree — tables that are still being written.

A configuration file may write one table in several places, within limits.
A `Tree` knows how each of its tables came about: opened by a header, by
the dots of a key, or only as the way to a deeper table, and in which order
its fields were written. `Tree.place?` and `Tree.openTable?` follow the
rules for what may still be added, and `Tree.value` is the finished table.
-/
import ScriptHost.Toml.Value

namespace ScriptHost.Toml

/-- How a table came about. -/
inductive Origin where
  /-- By a header of its own, or as a whole. -/
  | header
  /-- As the way to a table with a header. -/
  | path
  /-- By the dots of a key. -/
  | dots
  deriving DecidableEq, Repr

/-- A table under construction, or a finished value. -/
inductive Tree where
  | value (t : Toml)
  | table (origin : Origin) (fields : List (String × Tree))
  /-- Tables under one header with double brackets, last first. -/
  | tables (items : List (List (String × Tree)))
  deriving Inhabited

/-- The fields of a table under construction. -/
abbrev Branch := List (String × Tree)

namespace Tree

/-- The field of a name. -/
def find? (key : String) (fields : Branch) : Option Tree :=
  Fields.find? key fields

/-- Writes a field: in place of an older one, else behind the others. -/
def put (key : String) (t : Tree) : Branch → Branch
  | [] => [(key, t)]
  | (k, old) :: rest =>
    if k = key then (key, t) :: rest else (k, old) :: put key t rest

/-- Writes a value under the dots of a key. A table that a header opened,
or that only leads to one, takes nothing this way. -/
def place? (t : Tree) : List String → Branch → Option Branch
  | [], _ => none
  | [key], fields =>
    match find? key fields with
    | none => some (put key t fields)
    | some _ => none
  | key :: more, fields =>
    match find? key fields with
    | none =>
      (place? t more []).map fun inner => put key (table .dots inner) fields
    | some (table .dots inner) =>
      (place? t more inner).map fun inner =>
        put key (table .dots inner) fields
    | some (table .path inner) =>
      match more with
      | [_] => none
      | _ => (place? t more inner).map fun inner =>
          put key (table .path inner) fields
    | some (tables (inner :: others)) =>
      match more with
      | [_] => none
      | _ => (place? t more inner).map fun inner =>
          put key (tables (inner :: others)) fields
    | some _ => none

/-- Changes the table that a path leads to, making tables on the way. In a
row of tables the path goes through the last one. -/
def follow? (f : Branch → Option Branch) :
    List String → Branch → Option Branch
  | [], fields => f fields
  | key :: more, fields =>
    match find? key fields with
    | none =>
      (follow? f more []).map fun inner => put key (table .path inner) fields
    | some (table origin inner) =>
      (follow? f more inner).map fun inner =>
        put key (table origin inner) fields
    | some (tables (inner :: others)) =>
      (follow? f more inner).map fun inner =>
        put key (tables (inner :: others)) fields
    | some _ => none

/-- Opens a table by its header. It must be new, or so far only the way to
deeper tables; then it moves behind the other fields. -/
def openTable? (key : String) (fields : Branch) : Option Branch :=
  match find? key fields with
  | none => some (put key (table .header []) fields)
  | some (table .path inner) =>
    some (Fields.erase key fields ++ [(key, table .header inner)])
  | some _ => none

/-- Opens one more table of a row by a header with double brackets. -/
def openItem? (key : String) (fields : Branch) : Option Branch :=
  match find? key fields with
  | none => some (put key (tables [[]]) fields)
  | some (tables items) => some (put key (tables ([] :: items)) fields)
  | some _ => none

/-- Writes a value under a key, inside the table that a header opened. -/
def write? (header : List String) (key : List String) (t : Toml)
    (fields : Branch) : Option Branch :=
  follow? (place? (value t) key) header fields

mutual
/-- The finished value. -/
def toToml : Tree → Toml
  | value t => t
  | table _ fields => .table (fieldsToToml fields)
  | tables items => .arr (itemsToToml items).reverse

/-- `toToml` for the fields of a table. -/
def fieldsToToml : List (String × Tree) → List (String × Toml)
  | [] => []
  | (k, t) :: rest => (k, toToml t) :: fieldsToToml rest

/-- `toToml` for a row of tables. -/
def itemsToToml : List (List (String × Tree)) → List Toml
  | [] => []
  | fields :: rest => .table (fieldsToToml fields) :: itemsToToml rest
end

end Tree

end ScriptHost.Toml
