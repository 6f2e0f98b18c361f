/-
ScriptHost.Script.Heap — the tables of an interpreter.

A heap gives each table identity its contents. `Heap.ofJson` builds the
value of host data in it: null becomes nil, so a null field is absent and a
null item is a hole; every array gets the array mark.
-/
import ScriptHost.Script.Table
import ScriptHost.Json.Basic

namespace ScriptHost

/-- The tables of an interpreter, by identity. -/
structure Heap where
  tables : Array Table := #[]
  deriving Inhabited

namespace Heap

/-- What a table holds. -/
def table (h : Heap) (id : TableId) : Table := h.tables.getD id {}

/-- Makes a new table. -/
def alloc (h : Heap) (t : Table) : TableId × Heap :=
  (h.tables.size, ⟨h.tables.push t⟩)

/-- Makes a new table, as a value. -/
def allocValue (h : Heap) (t : Table) : Value × Heap :=
  let (id, h) := h.alloc t
  (.table id, h)

/-- Changes what a table holds. -/
def modify (h : Heap) (id : TableId) (f : Table → Table) : Heap :=
  ⟨h.tables.modify id f⟩

/-- The value under a key of a value, nil if it is no table. -/
def rawGet (h : Heap) (v key : Value) : Value :=
  match v with
  | .table id => (h.table id).get key
  | _ => .nil

/-! ## Values of data -/

mutual
/-- The value of data. -/
def ofJson (h : Heap) : Json → Value × Heap
  | .null => (.nil, h)
  | .bool b => (.bool b, h)
  | .int i => (.ofInt i, h)
  | .float x => (.float x, h)
  | .str s => (.ofText s, h)
  | .arr items =>
    let (values, h) := ofItems h items
    h.allocValue (Table.ofItems .array values)
  | .obj fields =>
    let (pairs, h) := ofFields h fields
    h.allocValue (Table.ofPairs pairs)

/-- The values of the items of an array. -/
def ofItems (h : Heap) : List Json → List Value × Heap
  | [] => ([], h)
  | j :: rest =>
    let (v, h) := ofJson h j
    let (vs, h) := ofItems h rest
    (v :: vs, h)

/-- The entries of the fields of an object. -/
def ofFields (h : Heap) : List (String × Json) →
    List (Value × Value) × Heap
  | [] => ([], h)
  | (k, j) :: rest =>
    let (v, h) := ofJson h j
    let (ps, h) := ofFields h rest
    ((.ofText k, v) :: ps, h)
end

end Heap

end ScriptHost
