/-
ScriptHost.Script.Unfolding — a value with all that it holds.

Tables may hold each other, so a value alone does not show what lies in it.
Its unfolding is a finite tree: every table is opened once for each way that
leads to it, and a table inside itself is cut off there. What a value is as
data is then a recursion on that tree (`Unfolding.toJson?`).
-/
import ScriptHost.Script.Heap
import ScriptHost.Script.Error

namespace ScriptHost

/-- A value with all that it holds. -/
inductive Unfolding where
  /-- Anything but a table. -/
  | scalar (v : Value)
  /-- A table inside itself. -/
  | again
  /-- A table that counts as an array: its items 1, 2, …, and its other
  entries. -/
  | seq (mark : Mark) (items : List Unfolding)
    (others : List (Unfolding × Unfolding))
  /-- Any other table. -/
  | map (mark : Mark) (entries : List (Unfolding × Unfolding))
  deriving Inhabited

namespace Heap

/-- Unfolds a value inside the tables `path`, through at most `fuel` further
ones. -/
def unfoldFrom (h : Heap) : Nat → List TableId → Value → Unfolding
  | fuel, path, .table id =>
    if path.contains id then .again
    else match fuel with
      | 0 => .again
      | fuel + 1 =>
        let t := h.table id
        let inner := unfoldFrom h fuel (id :: path)
        if t.isSequence then
          let items := t.items
          .seq t.mark (items.map inner)
            ((t.entries.filter fun p => !p.1.isItem items.length).map
              fun p => (inner p.1, inner p.2))
        else .map t.mark (t.entries.map fun p => (inner p.1, inner p.2))
  | _, _, v => .scalar v

/-- A value with all that it holds. The tables on one way are all
different, so a way is no longer than the heap. -/
def unfold (h : Heap) (v : Value) : Unfolding :=
  h.unfoldFrom (h.tables.size + 1) [] v

end Heap

namespace Unfolding

/-- Is it a table inside itself? -/
def isAgain : Unfolding → Bool
  | again => true
  | _ => false

/-- What an error message shows of a value that has the wrong type. -/
def found : Unfolding → Except DataError Found
  | scalar .nil => .ok .nothing
  | scalar .null => .ok .nothing
  | scalar (.bool b) => .ok (.boolean b)
  | scalar (.int i) => .ok (.integer i)
  | scalar (.float x) => .ok (.float x)
  | scalar (.str _) => .ok .bytes
  | scalar v => .error (.unsupported v.typeName)
  | again => .error .recursive
  | seq .. => .ok .sequence
  | map .. => .ok .map

/-- Refuses a value in the place of something else. -/
def refuse {α : Type} (u : Unfolding) (expected : Expected) :
    Except DataError α := do
  .error (.wrongType (← u.found) expected)

/-- The text of a value that must be one. -/
def text? (u : Unfolding) : Option String :=
  match u with
  | scalar (.str s) => (Utf8.toString? s).toOption
  | _ => none

/-- A field name. -/
def key (u : Unfolding) : Except DataError String :=
  match u.text? with
  | some s => .ok s
  | none => u.refuse .textKey

/-- Refuses an entry that leads back to a table around it. -/
def checkEntry (p : Unfolding × Unfolding) : Except DataError Unit :=
  if p.1.isAgain || p.2.isAgain then .error .recursive else .ok ()

/-- A value that is no table, as data. -/
def scalarJson (v : Value) : Except DataError Json :=
  match v with
  | .nil => .ok .null
  | .null => .ok .null
  | .bool b => .ok (.bool b)
  | .int i => .ok (.int i.toInt)
  | .float x => .ok (if x.isFinite then .float x else .null)
  | .str s =>
    match Utf8.toString? s with
    | .ok text => .ok (.str text)
    | .error _ => .error (.wrongType .bytes .json)
  | v => .error (.unsupported v.typeName)

mutual
/-- The value as data. Of an array only the items count; of any other
table every entry must have a text as key. -/
def toJson : Unfolding → Except DataError Json
  | scalar v => scalarJson v
  | again => .error .recursive
  | seq _ items _ => (toJsonItems items).map .arr
  | map _ entries => (toJsonEntries entries).map .ofPairs

/-- The items of an array as data. -/
def toJsonItems : List Unfolding → Except DataError (List Json)
  | [] => .ok []
  | u :: rest => do
    let j ← toJson u
    let js ← toJsonItems rest
    pure (j :: js)

/-- The entries of a table as data. -/
def toJsonEntries : List (Unfolding × Unfolding) →
    Except DataError (List (String × Json))
  | [] => .ok []
  | (k, u) :: rest => do
    checkEntry (k, u)
    let name ← key k
    let j ← toJson u
    let js ← toJsonEntries rest
    pure ((name, j) :: js)
end

end Unfolding

/-- A value as data. -/
def Heap.toJson (h : Heap) (v : Value) : Except DataError Json :=
  (h.unfold v).toJson

end ScriptHost
