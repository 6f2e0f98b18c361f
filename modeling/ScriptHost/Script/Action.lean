/-
ScriptHost.Script.Action — what a function may do while a script runs.

An `Action` reads and changes one interpreter and what all interpreters
share, and returns a value or is cut short. What it changed before it was
cut short stays changed, so an action that must leave nothing behind checks
everything first.
-/
import ScriptHost.Script.Argument
import ScriptHost.Script.Interpreter
import ScriptHost.Script.Unfolding

namespace ScriptHost

/-- One interpreter, and what it shares with all others. -/
structure World (F : Type) where
  interpreter : Interpreter F
  shared : Shared

/-- Something done in a world. -/
abbrev Action (F : Type) := ExceptT Abort (StateM (World F))

namespace Action

variable {F α : Type}

/-! ## Ends -/

/-- Ends with an error. -/
def raise (e : ScriptError) : Action F α := throw (.raised e)

/-- Ends with a complaint. -/
def complain (c : Complaint) : Action F α := raise (.complaint c)

/-- Ends with a fault of the host. -/
def fail (f : HostFault) : Action F α := raise (.fault f)

/-- Ends without an error that a script could see. -/
def panic : Action F α := throw .panicked

/-- Goes on with a result, or ends with its error. -/
def ofExcept : Except ScriptError α → Action F α
  | .ok a => pure a
  | .error e => raise e

/-- Goes on with a value, or ends with a complaint. -/
def ofOption (c : Complaint) : Option α → Action F α
  | some a => pure a
  | none => complain c

/-- One of the arguments, as typed data. -/
def argument (read : Argument.Reader α) (args : List Value) (n : Nat) :
    Action F α :=
  ofExcept (read (Argument.nth args n))

/-! ## State -/

/-- The interpreter. -/
def interpreter : Action F (Interpreter F) := do pure (← get).interpreter

/-- What all interpreters share. -/
def shared : Action F Shared := do pure (← get).shared

/-- Changes the interpreter. -/
def modifyInterpreter (f : Interpreter F → Interpreter F) : Action F Unit :=
  modify fun w => { w with interpreter := f w.interpreter }

/-- Changes what all interpreters share. -/
def modifyShared (f : Shared → Shared) : Action F Unit :=
  modify fun w => { w with shared := f w.shared }

/-- The context of the host. -/
def host : Action F HostContext := do
  match (← interpreter).host with
  | some context => pure context
  | none => complain .noHost

/-- Request and response of the run. -/
def exchange : Action F Exchange := do
  match (← interpreter).exchange with
  | some ex => pure ex
  | none => fail .noActiveRequest

/-- Changes request and response of the run. -/
def modifyExchange (f : Exchange → Exchange) : Action F Unit := do
  let ex ← exchange
  modifyInterpreter fun i => { i with exchange := some (f ex) }

/-! ## Data -/

/-- The value of data. -/
def ofJson (j : Json) : Action F Value := do
  let (v, heap) := (← interpreter).heap.ofJson j
  modifyInterpreter fun i => { i with heap := heap }
  pure v

/-- The value of data, or nil. -/
def ofJson? : Option Json → Action F Value
  | some j => ofJson j
  | none => pure .nil

/-- A value as data. -/
def toJson (v : Value) : Action F Json := do
  match (← interpreter).heap.toJson v with
  | .ok j => pure j
  | .error e => raise (.data e)

/-! ## Objects -/

/-- The field of an object that holds its host state. -/
def handleField : String := "__handle"

/-- Makes an object of a type. -/
def newObject (className : String) (state : ObjectState) :
    Action F Value := do
  let i ← interpreter
  if (i.classes.get? className).isNone then
    raise (.conversion "nil" "table" none)
  else
    let handle := Value.handle i.handles.size
    let (v, heap) := i.heap.allocValue
      { entries := [(.ofText handleField, handle)]
        mark := .object className }
    modifyInterpreter fun i =>
      { i with heap := heap, handles := i.handles.push state }
    pure v

/-- The identity of the host state of an object. -/
def handleOf (object : TableId) : Action F HandleId := do
  match ((← interpreter).table object).field handleField with
  | .handle id => pure id
  | v => raise (.conversion v.typeName "userdata" none)

/-- The host state of an object, as one kind of it. -/
def stateOf (kind : ObjectState → Option α) (object : TableId) :
    Action F α := do
  let id ← handleOf object
  match ((← interpreter).handles[id]?).bind kind with
  | some a => pure a
  | none => raise .wrongHandle

/-- Replaces the host state of an object. -/
def setState (object : TableId) (state : ObjectState) : Action F Unit := do
  let id ← handleOf object
  modifyInterpreter fun i =>
    { i with handles := i.handles.setIfInBounds id state }

/-! ## Services -/

/-- Asks a service. The question is remembered, with its outcome. -/
def serve (call : ServiceCall) : Action F call.Reply := do
  let services := (← host).services
  if !services.provides call.kind then fail (.unavailable call.kind)
  else
    let history := (← shared).history
    match services.answer history call with
    | .ok reply =>
      modifyShared fun s => { s with history := ⟨call, false⟩ :: history }
      pure reply
    | .error f =>
      modifyShared fun s => { s with history := ⟨call, true⟩ :: history }
      fail f

/-- Schedules an event: with the host's service for that, else with the
scheduler that serves the scripts. -/
def schedule (interval : Nat) (script : String) : Action F EventId := do
  if (← host).services.provides .event then
    serve (.schedule interval script)
  else match (← shared).agenda.schedule interval script with
    | .ok (id, agenda) =>
      modifyShared fun s => { s with agenda := agenda }
      pure id
    | .error f => fail f

/-- Cancels an event, and says whether it was active. -/
def cancel (event : EventId) : Action F Bool := do
  if (← host).services.provides .event then serve (.cancel event)
  else match (← shared).agenda.cancel event with
    | .ok (found, agenda) =>
      modifyShared fun s => { s with agenda := agenda }
      pure found
    | .error f => fail f

end Action

end ScriptHost
