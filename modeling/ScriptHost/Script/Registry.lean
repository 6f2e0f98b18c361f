/-
ScriptHost.Script.Registry — the functions that a host offers to scripts.

A `Module` is a named group of functions. It is either a global table or the
type of objects that a factory makes. A `Registry` lists modules and
factories in the order in which they are bound.
-/
import ScriptHost.Data.KeyMap

namespace ScriptHost

/-- What a name of a module stands for. -/
inductive Binding (F : Type) where
  | native (f : F)
  /-- The name is kept free for later. -/
  | reserved
  deriving DecidableEq, Repr

/-- Is the name kept free for later? -/
def Binding.isReserved {F : Type} : Binding F → Bool
  | native _ => false
  | reserved => true

/-- How scripts see a module. -/
inductive Exposure where
  /-- As the global table of its name. -/
  | globalTable
  /-- As the type of objects. -/
  | objectType
  deriving DecidableEq, Repr

/-- A named group of functions. -/
structure Module (F : Type) where
  name : String
  exposure : Exposure
  methods : KeyMap (Binding F)

/-- A function that is a global itself. -/
structure Factory (F : Type) where
  name : String
  function : F

/-- All that a host offers to scripts. -/
structure Registry (F : Type) where
  modules : List (Module F) := []
  factories : List (Factory F) := []

namespace Module

variable {F G : Type}

/-- A global table of the given functions. -/
def ofFunctions (name : String) (functions : List (String × F)) : Module F where
  name := name
  exposure := .globalTable
  methods := .ofList (functions.map fun (method, f) => (method, .native f))

/-- The type of objects with the given functions. -/
def ofMethods (name : String) (functions : List (String × F)) : Module F :=
  { ofFunctions name functions with exposure := .objectType }

/-- Keeps a name free for later. -/
def reserve (m : Module F) (method : String) : Module F :=
  { m with methods := m.methods.insert method .reserved }

/-- What a method stands for. -/
def method? (m : Module F) (method : String) : Option (Binding F) :=
  m.methods.get? method

/-- How many methods there are. -/
def size (m : Module F) : Nat := m.methods.size

end Module

namespace Registry

variable {F : Type}

/-- The first module of a name. -/
def module? (r : Registry F) (name : String) : Option (Module F) :=
  r.modules.find? (·.name = name)

/-- How many modules there are. -/
def size (r : Registry F) : Nat := r.modules.length

end Registry

end ScriptHost
