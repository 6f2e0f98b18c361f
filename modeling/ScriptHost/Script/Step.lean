/-
ScriptHost.Script.Step — scripts as lists of steps.

A step calls a function, reads or writes a value, or raises an error; it may
refer to what earlier steps of its script have returned. A step that fails
ends the script if it must not fail, and else only its failure is noted. A
step that names no function never ends the script, nor does a panic. What a
step has done is its `Record`: how it ended, with all values unfolded as
they were at that time, and what was asked of the services.
-/
import ScriptHost.Script.Call

namespace ScriptHost

/-! ## Scripts -/

/-- A value as a script writes it. -/
inductive Expr where
  /-- Anything that holds nothing. -/
  | scalar (v : Value)
  /-- A new table with entries, written in order. -/
  | pairs (entries : List (Expr × Expr))
  /-- A new table with items. -/
  | items (mark : Mark) (items : List Expr)
  /-- A new function that does nothing. -/
  | function
  /-- The first value that a step has returned, and what lies behind a row
  of keys in it. -/
  | result (step : Nat) (path : List Expr)
  /-- What lies behind a row of keys in the globals. -/
  | global (path : List Expr)
  deriving Repr

/-- How a step names the function that it calls. -/
inductive Callee where
  /-- A global. -/
  | global (name : String)
  /-- A function of a global table. -/
  | member (table name : String)
  /-- The same, with the table as the first argument. -/
  | method (table name : String)
  /-- A function of an object, with the object as the first argument. -/
  | ofObject (object : Expr) (name : String)
  /-- A function of an object type. -/
  | ofClass (className name : String)
  deriving Repr

/-- What a step does. -/
inductive Deed where
  | call (callee : Callee) (args : List Expr)
  | value (e : Expr)
  /-- Writes a value behind a row of keys in the globals, or in what a step
  has returned. -/
  | write (step : Option Nat) (path : List Expr) (e : Expr)
  /-- Ends the script with an error. -/
  | raise (text : String)
  deriving Repr

/-- A step of a script. -/
structure Step where
  deed : Deed
  /-- Does its failure end the script? -/
  mustSucceed : Bool := false
  deriving Repr

/-- A script. -/
abbrev Script := List Step

/-! ## Records -/

/-- How a step has ended. -/
inductive Outcome where
  | returned (values : List Unfolding)
  | failed (e : ScriptError)
  | panicked
  /-- The function that it names is not there. -/
  | noFunction

/-- What a step has done. -/
structure Record where
  outcome : Outcome
  /-- What it asked of the services. -/
  asked : List Interaction := []

/-! ## Running -/

namespace Step

variable {F : Type}

/-- The first values that the steps so far have returned. -/
abbrev Results := Array Value

/-- The first value that a step has returned, nil if there is none. -/
def resultOf (results : Results) (step : Nat) : Value := results.getD step .nil

mutual
/-- The value of an expression. -/
def eval (results : Results) : Expr → Action F Value
  | .scalar v => pure v
  | .pairs entries => do
    let pairs ← evalPairs results entries
    newTable (Table.ofPairs pairs)
  | .items mark items => do
    let values ← evalItems results items
    newTable (Table.ofItems mark values)
  | .function => do
    let (v, i) := (← Action.interpreter).addFunction .inert
    Action.modifyInterpreter fun _ => i
    pure v
  | .result step path => do
    let keys ← evalItems results path
    pure ((← Action.interpreter).rawPath (resultOf results step) keys)
  | .global path => do
    let keys ← evalItems results path
    let i ← Action.interpreter
    pure (i.rawPath (.table i.globals) keys)
where
  /-- Makes a table. -/
  newTable (t : Table) : Action F Value := do
    let (id, i) := (← Action.interpreter).alloc t
    Action.modifyInterpreter fun _ => i
    pure (.table id)

/-- The values of the entries of a table. -/
def evalPairs (results : Results) :
    List (Expr × Expr) → Action F (List (Value × Value))
  | [] => pure []
  | (k, e) :: rest => do
    let key ← eval results k
    let value ← eval results e
    let others ← evalPairs results rest
    pure ((key, value) :: others)

/-- The values of expressions in a row. -/
def evalItems (results : Results) : List Expr → Action F (List Value)
  | [] => pure []
  | e :: rest => do
    let v ← eval results e
    let others ← evalItems results rest
    pure (v :: others)
end

/-- The function that a step names, and the arguments in front of its
own. -/
def resolve (results : Results) :
    Callee → Action F (Option (Callable F) × List Value)
  | .global name => do
    let i ← Action.interpreter
    pure (i.callable? (i.global name), [])
  | .member table name => do
    let i ← Action.interpreter
    pure (i.fieldCallable? (i.global table) name, [])
  | .method table name => do
    let i ← Action.interpreter
    pure (i.fieldCallable? (i.global table) name, [i.global table])
  | .ofObject object name => do
    let v ← eval results object
    pure ((← Action.interpreter).fieldCallable? v name, [v])
  | .ofClass className name => do
    pure ((← Action.interpreter).classCallable? className name, [])

/-- Does what a step says, none if it names no function. -/
def perform [Dispatch F] (results : Results) :
    Deed → Action F (Option (List Value))
  | .call callee args => do
    let (found, front) ← resolve results callee
    match found with
    | some function => do
      let values ← evalItems results args
      pure (some (← Action.invoke function (front ++ values)))
    | none => pure none
  | .value e => do pure (some [← eval results e])
  | .write step path e => do
    let keys ← evalItems results path
    let v ← eval results e
    Action.modifyInterpreter fun i =>
      let root := match step with
        | some n => resultOf results n
        | none => .table i.globals
      i.writePath root keys v
    pure (some [])
  | .raise text => Action.complain (.raised text)

/-- Does the failure of a step end the script? -/
def endsOnFailure (step : Step) : Bool :=
  step.mustSucceed || match step.deed with
    | .raise _ => true
    | _ => false

/-- How a step has ended, as its record shows it. -/
def outcomeOf (heap : Heap) : Except Abort (Option (List Value)) → Outcome
  | .ok (some values) => .returned (values.map heap.unfold)
  | .ok none => .noFunction
  | .error (.raised e) => .failed e
  | .error .panicked => .panicked

/-- The first value that a step has returned. -/
def firstValue : Except Abort (Option (List Value)) → Value
  | .ok (some (v :: _)) => v
  | _ => .nil

/-- The error that ends the script with this step. -/
def fatal? (step : Step) :
    Except Abort (Option (List Value)) → Option ScriptError
  | .error (.raised e) => if step.endsOnFailure then some e else none
  | _ => none

/-- What was asked since there were only so many questions. -/
def askedSince (count : Nat) (history : List Interaction) :
    List Interaction :=
  (history.take (history.length - count)).reverse

/-- Time passes while a step is done. -/
def tick (w : World F) : World F :=
  { w with shared := { w.shared with clock := w.shared.clock.tick } }

end Step

/-- How a script has ended, and what it leaves behind. -/
structure Ended (R : Type) where
  report : R
  ending : Except Abort Unit

namespace Script

variable {F : Type} [Dispatch F]

/-- Does the steps of a script, given the results of those before. -/
def runFrom (results : Step.Results) :
    Script → StateM (World F) (Ended (List Record))
  | [] => pure ⟨[], .ok ()⟩
  | step :: rest => do
    let before := (← get).shared.history.length
    modify Step.tick
    let result ← (Step.perform results step.deed).run
    let w ← get
    let record : Record :=
      { outcome := Step.outcomeOf w.interpreter.heap result
        asked := Step.askedSince before w.shared.history }
    match step.fatal? result with
    | some e => pure ⟨[record], .error (.raised e)⟩
    | none => do
      let later ← runFrom (results.push (Step.firstValue result)) rest
      pure { later with report := record :: later.report }

/-- Does the steps of a script. -/
def run (script : Script) : StateM (World F) (Ended (List Record)) :=
  runFrom #[] script

end Script

end ScriptHost
