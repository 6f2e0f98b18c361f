/-
ScriptHost.Script.Binder — putting a registry into an interpreter.

Binding never replaces anything: a name that is taken is an error. What was
bound before the error stays. `Binder.verify` checks that everything a
registry lists is there and can be called.
-/
import ScriptHost.Script.Interpreter
import ScriptHost.Script.Error
import ScriptHost.Script.Registry

namespace ScriptHost

/-- An interpreter, and the names of the modules bound into it. -/
structure Binder (F : Type) where
  interpreter : Interpreter F
  bound : List String := []

/-- A part of binding, which may fail. -/
abbrev Binding.Step (F : Type) := ExceptT HostError (StateM (Binder F))

namespace Binder

variable {F α : Type}

/-- What an object type is called where it is kept. -/
def classKey (name : String) : String := "ember.class." ++ name

/-- The fields of a class table that are no methods. -/
def indexField : String := "__index"
def nameField : String := "__name"

/-- Ends with a fault. -/
def fail (f : HostFault) : Binding.Step F α := throw (.fault f)

/-- Ends because a value is not of the type that is expected. -/
def refuse (v : Value) (expected : String) : Binding.Step F α :=
  throw (.script (.conversion v.typeName expected none))

/-- The interpreter. -/
def currentInterpreter : Binding.Step F (Interpreter F) := do
  pure (← get).interpreter

/-- Changes the interpreter. -/
def modifyInterpreter (f : Interpreter F → Interpreter F) :
    Binding.Step F Unit :=
  modify fun b => { b with interpreter := f b.interpreter }

/-! ## Binding -/

/-- What a binding of a module does when it is called. -/
def callable (m : Module F) (method : String) : Binding F → Callable F
  | .native f =>
    match m.exposure with
    | .globalTable => .member m.name f
    | .objectType => .plain f
  | .reserved => .reserved (m.name ++ "." ++ method)

/-- Makes the functions of a module, and lists them by name. -/
def methodEntries (m : Module F) (i : Interpreter F) :
    List (Value × Value) × Interpreter F :=
  m.methods.entries.foldl
    (fun (entries, i) (method, binding) =>
      let (f, i) := i.addFunction (callable m method binding)
      (entries ++ [(.ofText method, f)], i))
    ([], i)

/-- Makes the table of the functions of a module. -/
def methodTable (m : Module F) (i : Interpreter F) :
    TableId × Interpreter F :=
  let (entries, i) := methodEntries m i
  i.alloc (Table.ofPairs entries)

/-- Is the global there? -/
def hasGlobal (name : String) : Binding.Step F Bool := do
  pure (!((← currentInterpreter).global name).isNil)

/-- Binds a module as a global table. -/
def bindTable (m : Module F) : Binding.Step F Unit := do
  if ← hasGlobal m.name then fail (.collision m.name)
  else modifyInterpreter fun i =>
    let (id, i) := methodTable m i
    i.setGlobal m.name (.table id)

/-- Binds a module as an object type. -/
def bindClass (m : Module F) : Binding.Step F Unit := do
  if ((← currentInterpreter).classes.get? m.name).isSome then
    fail (.collision (classKey m.name))
  else modifyInterpreter fun i =>
    let (id, i) := methodTable m i
    let i := i.modifyTable id fun t =>
      (t.set (.ofText indexField) (.table id)).set (.ofText nameField)
        (.ofText m.name)
    { i with classes := i.classes.insert m.name id }

/-- Binds a module. -/
def bind (m : Module F) : Binding.Step F Unit := do
  if (← get).bound.contains m.name then fail (.collision m.name)
  else
    match m.exposure with
    | .globalTable => bindTable m
    | .objectType => bindClass m
    modify fun b => { b with bound := m.name :: b.bound }

/-- Binds a factory. -/
def bindFactory (f : Factory F) : Binding.Step F Unit := do
  if ← hasGlobal f.name then fail (.collision f.name)
  else modifyInterpreter fun i =>
    let (v, i) := i.addFunction (.plain f.function)
    i.setGlobal f.name v

/-! ## Checking -/

/-- What is there under the name of a module. -/
def moduleValue (m : Module F) (i : Interpreter F) : Value :=
  match m.exposure with
  | .globalTable => i.global m.name
  | .objectType =>
    match i.classes.get? m.name with
    | some id => .table id
    | none => .nil

/-- Makes sure that a value is a function. -/
def verifyFunction (v : Value) (name : String) : Binding.Step F Unit :=
  match v with
  | .func _ => pure ()
  | .nil => fail (.unbound name)
  | v => refuse v "function"

/-- Makes sure that a module is there with all its methods. -/
def verifyModule (m : Module F) : Binding.Step F Unit := do
  let i ← currentInterpreter
  match moduleValue m i with
  | .table id =>
    m.methods.keys.forM fun method =>
      verifyFunction (i.index id (.ofText method)) (m.name ++ "." ++ method)
  | .nil => fail (.unbound m.name)
  | v => refuse v "table"

/-- Makes sure that a factory is there. -/
def verifyFactory (f : Factory F) : Binding.Step F Unit := do
  verifyFunction ((← currentInterpreter).global f.name) f.name

/-- Makes sure that everything in a registry is there. -/
def verify (r : Registry F) : Binding.Step F Unit := do
  r.modules.forM verifyModule
  r.factories.forM verifyFactory

/-- Binds everything in a registry. -/
def bindRegistry (r : Registry F) : Binding.Step F Unit := do
  r.modules.forM bind
  r.factories.forM bindFactory
  verify r

end Binder

end ScriptHost
