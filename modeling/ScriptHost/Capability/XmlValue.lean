/-
ScriptHost.Capability.XmlValue — XML elements from the tables of scripts.

An element is a table with the fields `name`, `attrs`, `children` and
`text`, each of which may be missing. Other fields are left out, but what
lies in them must still be data. A list of children ends at its first hole.
-/
import ScriptHost.Script.Unfolding
import ScriptHost.Xml.Node

namespace ScriptHost

namespace Unfolding

/-- A text where one must stand. -/
def asText (u : Unfolding) : Except DataError String :=
  match u with
  | scalar (.str s) =>
    match Utf8.toString? s with
    | .ok text => .ok text
    | .error _ => .error .wrongBytes
  | _ => u.refuse .text

/-- The name of a field. Bytes that are no text name no field. -/
def asFieldName (u : Unfolding) : Except DataError String :=
  match u with
  | scalar (.str s) => .ok ((Utf8.toString? s).toOption.getD "")
  | _ => u.refuse .fieldName

/-- Refuses what is no table. -/
def refuseTable {α : Type} (v : Value) : Except DataError α :=
  .error (.wrongType (.value v.typeName) .table)

/-- The key of the first item of an array. -/
def firstKey : Unfolding := scalar (.int 1)

mutual
/-- Is the value data, whatever it is? -/
def checkData : Unfolding → Except DataError Unit
  | scalar (.func _) => .error (.unsupported "function")
  | scalar (.handle _) => .error (.unsupported "userdata")
  | scalar _ => .ok ()
  | again => .error .recursive
  | seq _ items _ => checkItems items
  | map _ entries => checkEntries entries

/-- `checkData` for the items of an array. -/
def checkItems : List Unfolding → Except DataError Unit
  | [] => .ok ()
  | u :: rest => do
    checkData u
    checkItems rest

/-- `checkData` for the entries of a table. -/
def checkEntries : List (Unfolding × Unfolding) → Except DataError Unit
  | [] => .ok ()
  | (k, u) :: rest => do
    checkEntry (k, u)
    checkData k
    checkData u
    checkEntries rest
end

/-- The attributes that entries give. -/
def attributes : List (Unfolding × Unfolding) →
    Except DataError (List (String × String))
  | [] => .ok []
  | (k, u) :: rest => do
    checkEntry (k, u)
    let name ← k.asText
    let value ← u.asText
    let others ← attributes rest
    pure ((name, value) :: others)

/-- The attributes that a value gives. -/
def asAttributes : Unfolding → Except DataError (KeyMap String)
  | scalar v => refuseTable v
  | again => .error .recursive
  | seq _ (first :: _) _ => do
    checkEntry (firstKey, first)
    firstKey.refuse .text
  | seq _ [] others => do pure (KeyMap.ofList (← attributes others))
  | map _ entries => do pure (KeyMap.ofList (← attributes entries))

mutual
/-- The element that a value gives. -/
def asNode : Unfolding → Except DataError XmlNode
  | scalar v => refuseTable v
  | again => .error .recursive
  | seq _ (first :: _) _ => do
    checkEntry (firstKey, first)
    firstKey.refuse .fieldName
  | seq _ [] others => fields {} others
  | map _ entries => fields {} entries

/-- The element with the fields that entries give, written into another
one. -/
def fields (node : XmlNode) : List (Unfolding × Unfolding) →
    Except DataError XmlNode
  | [] => .ok node
  | (k, u) :: rest => do
    checkEntry (k, u)
    match ← k.asFieldName with
    | "name" => fields { node with name := ← u.asText } rest
    | "attrs" => fields { node with attrs := ← u.asAttributes } rest
    | "children" => fields { node with children := ← asChildren u } rest
    | "text" => fields { node with text := ← u.asText } rest
    | _ => do
      checkData u
      fields node rest

/-- The children that a value gives. -/
def asChildren : Unfolding → Except DataError (List XmlNode)
  | scalar v => refuseTable v
  | again => .error .recursive
  | seq _ items _ => asNodes items
  | map .. => .ok []

/-- The elements that items give. -/
def asNodes : List Unfolding → Except DataError (List XmlNode)
  | [] => .ok []
  | u :: rest => do
    let node ← asNode u
    let nodes ← asNodes rest
    pure (node :: nodes)
end

end Unfolding

end ScriptHost
