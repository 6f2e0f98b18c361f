/-
ScriptHost.Script.Interpreter — one interpreter: its tables, functions and
what the host keeps in it.

A fresh interpreter (`Interpreter.fresh`) has the standard globals of the
scripting language and nothing of the host. What a function does is a
`Callable`; the type `F` names the host's own functions.
-/
import ScriptHost.Script.Heap
import ScriptHost.Host.Context
import ScriptHost.Web.Exchange

namespace ScriptHost

/-- What a function of an interpreter does. -/
inductive Callable (F : Type) where
  /-- A function of a namespace: when its first argument is the table that
  the global of this name holds, it is left out. -/
  | member (namespaceName : String) (f : F)
  /-- A function that takes its arguments as they are. -/
  | plain (f : F)
  /-- A name that is kept free: calling it is an error. -/
  | reserved (name : String)
  /-- A function that does nothing and returns nothing. -/
  | inert
  deriving Repr

/-- Host state that a script object carries. -/
inductive ObjectState where
  | event (id : EventId)
  | image (spec : ImageSpec)
  | player (record : PlayerRecord)
  | lamp (lit : Bool)
  deriving DecidableEq, Repr

/-- An interpreter. -/
structure Interpreter (F : Type) where
  heap : Heap
  functions : Array (Callable F)
  handles : Array ObjectState
  /-- The table of the globals. -/
  globals : TableId
  /-- The tables of the object types, by type name. -/
  classes : KeyMap TableId
  host : Option HostContext
  /-- Request and response of the run, while there is one. -/
  exchange : Option Exchange

namespace Interpreter

variable {F : Type}

/-! ## The standard globals -/

/-- The standard functions that are globals themselves. -/
def standardFunctions : List String :=
  ["assert", "collectgarbage", "dofile", "error", "getmetatable", "ipairs",
    "load", "loadfile", "next", "pairs", "pcall", "print", "rawequal",
    "rawget", "rawlen", "rawset", "require", "select", "setmetatable",
    "tonumber", "tostring", "type", "warn", "xpcall"]

/-- The standard libraries with their functions. -/
def standardLibraries : List (String × List String) :=
  [("coroutine", ["close", "create", "isyieldable", "resume", "running",
      "status", "wrap", "yield"]),
    ("io", ["close", "flush", "input", "lines", "open", "output", "popen",
      "read", "tmpfile", "type", "write"]),
    ("math", ["abs", "acos", "asin", "atan", "ceil", "cos", "deg", "exp",
      "floor", "fmod", "log", "max", "min", "modf", "rad", "random",
      "randomseed", "sin", "sqrt", "tan", "tointeger", "type", "ult"]),
    ("os", ["clock", "date", "difftime", "execute", "exit", "getenv",
      "remove", "rename", "setlocale", "time", "tmpname"]),
    ("package", ["loadlib", "searchpath"]),
    ("string", ["byte", "char", "dump", "find", "format", "gmatch", "gsub",
      "len", "lower", "match", "pack", "packsize", "rep", "reverse", "sub",
      "unpack", "upper"]),
    ("table", ["concat", "insert", "move", "pack", "remove", "sort",
      "unpack"]),
    ("utf8", ["char", "codepoint", "codes", "len", "offset"])]

/-- The one function that all standard names stand for. -/
def standardFunction : Value := .func 0

/-- A table of standard functions. -/
def standardTable (names : List String) : Table :=
  Table.ofPairs (names.map fun name => (.ofText name, standardFunction))

/-- The name of the table of libraries and search paths. -/
def packageName : String := "package"

/-- Makes the tables of the standard libraries, and lists them. -/
def standardHeap : Heap × List (Value × Value) :=
  standardLibraries.foldl
    (fun (h, entries) (name, names) =>
      let (v, h) := h.allocValue (standardTable names)
      (h, (.ofText name, v) :: entries))
    (⟨#[]⟩, [])

/-- Adds what the package table holds beside its functions. -/
def extendPackage (h : Heap) (libraries : List (Value × Value)) : Heap :=
  let (loaded, h) := h.allocValue (Table.ofPairs libraries)
  let (preload, h) := h.allocValue {}
  let (searchers, h) := h.allocValue
    (Table.ofItems .plain (List.replicate 4 standardFunction))
  match libraries.lookup (.ofText packageName) with
  | some (.table id) => h.modify id fun t =>
    ((((t.set (.ofText "loaded") loaded).set (.ofText "preload") preload).set
      (.ofText "searchers") searchers).set (.ofText "path")
        (.ofText "./?.lua")).set (.ofText "cpath") (.ofText "./?.so")
  | _ => h

/-- An interpreter with the standard globals and nothing else. -/
def fresh (host : Option HostContext) : Interpreter F :=
  let (h, libraries) := standardHeap
  let h := extendPackage h libraries
  let functions := standardFunctions.map fun name =>
    ((.ofText name, standardFunction) : Value × Value)
  let (globals, h) := h.alloc (Table.ofPairs (functions ++ libraries
    ++ [(.ofText "_VERSION", .ofText "Lua 5.4")]))
  let h := h.modify globals (·.set (.ofText "_G") (.table globals))
  { heap := h
    functions := #[.inert]
    handles := #[]
    globals := globals
    classes := ∅
    host := host
    exchange := none }

/-! ## Reading and writing -/

/-- What a table holds. -/
def table (i : Interpreter F) (id : TableId) : Table := i.heap.table id

/-- Makes a new table. -/
def alloc (i : Interpreter F) (t : Table) : TableId × Interpreter F :=
  let (id, h) := i.heap.alloc t
  (id, { i with heap := h })

/-- Changes what a table holds. -/
def modifyTable (i : Interpreter F) (id : TableId) (f : Table → Table) :
    Interpreter F :=
  { i with heap := i.heap.modify id f }

/-- The global of a name. -/
def global (i : Interpreter F) (name : String) : Value :=
  (i.table i.globals).field name

/-- Writes a global. -/
def setGlobal (i : Interpreter F) (name : String) (v : Value) :
    Interpreter F :=
  i.modifyTable i.globals (·.set (.ofText name) v)

/-- What a function does. -/
def callable (i : Interpreter F) (id : FunctionId) : Callable F :=
  i.functions.getD id .inert

/-- Makes a new function. -/
def addFunction (i : Interpreter F) (c : Callable F) :
    Value × Interpreter F :=
  (.func i.functions.size, { i with functions := i.functions.push c })

/-- The value under a key of a table. An object that lacks the key has what
its class table has. -/
def index (i : Interpreter F) (id : TableId) (key : Value) : Value :=
  let t := i.table id
  let own := t.get key
  match own, t.mark with
  | .nil, .object cls =>
    match i.classes.get? cls with
    | some id => (i.table id).get key
    | none => .nil
  | _, _ => own

/-- The arguments that reach a function of a namespace. -/
def stripNamespace (i : Interpreter F) (name : String) :
    List Value → List Value
  | .table id :: rest =>
    if i.global name = .table id then rest else .table id :: rest
  | args => args

end Interpreter

end ScriptHost
