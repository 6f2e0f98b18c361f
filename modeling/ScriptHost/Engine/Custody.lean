/-
ScriptHost.Engine.Custody — instances in the hands of named callers.

A caller takes an instance under a name and gives it back. A guarded
instance goes back by itself when the caller lets go of it; one that is
owned is lost then. `Custody.detach` makes a guarded instance owned.
-/
import ScriptHost.Engine.Events

namespace ScriptHost

/-- An instance in the hands of a caller. -/
structure Holding (S : Type) where
  inst : Instance S
  /-- Does it go back by itself? -/
  guarded : Bool

/-- An engine, and what its callers hold. -/
structure Custody (F : Type) where
  engine : Engine F
  held : KeyMap (Holding (Interpreter F)) := ∅
  /-- The events that callers have scheduled, by the names they gave. -/
  events : KeyMap EventId := ∅

namespace Custody

variable {F : Type}

/-- What a caller holds under a name. -/
def holding? (c : Custody F) (name : String) :
    Option (Holding (Interpreter F)) :=
  c.held.get? name

/-- Lets go of what is held under a name. -/
def letGo (c : Custody F) (name : String) : Custody F :=
  match c.holding? name with
  | some h =>
    { c with
      engine := if h.guarded then c.engine.put h.inst else c.engine
      held := c.held.erase name }
  | none => c

/-- Takes an instance under a name, and lets go of an older one. -/
def take (c : Custody F) (name : String) (guarded : Bool) :
    Except HostError (Instance (Interpreter F)) × Custody F :=
  match c.engine.get with
  | (.ok inst, engine) =>
    let c := { c with engine := engine }.letGo name
    (.ok inst, { c with held := c.held.insert name ⟨inst, guarded⟩ })
  | (.error e, engine) => (.error e, { c with engine := engine })

/-- Gives what is held under a name back. -/
def giveBack (c : Custody F) (name : String) : Custody F :=
  match c.holding? name with
  | some h =>
    { c with engine := c.engine.put h.inst, held := c.held.erase name }
  | none => c

/-- Keeps a guarded instance from going back by itself. -/
def detach (c : Custody F) (name : String) : Custody F :=
  match c.holding? name with
  | some h =>
    { c with held := c.held.insert name { h with guarded := false } }
  | none => c

/-- Lets go of everything and closes the engine. -/
def close (c : Custody F) : Custody F :=
  { c with engine := c.engine.close, held := ∅ }

variable [Dispatch F]

/-- Runs something on the instance that is held under a name, if one is, or
else on one that is handed out for it. -/
def run (c : Custody F) (name : Option String)
    (program : Instance (Interpreter F) → Shared →
      Executed F (List Run)) :
    (Except HostError Response × List Run) × Custody F :=
  match name.bind fun n => (c.holding? n).map (n, ·) with
  | some (n, h) =>
    let done := program h.inst c.engine.shared
    ((done.outcome, done.report),
      { c with
        engine := { c.engine with shared := done.shared }
        held := c.held.insert n { h with inst := done.inst } })
  | none =>
    let (result, engine) := c.engine.withInstance program
    (result, { c with engine := engine })

/-- Does steps on the instance that is held under a name, outside of any
request. -/
def perform (c : Custody F) (name : String) (script : Script) :
    List Record × Custody F :=
  match c.holding? name with
  | some h =>
    let (records, inst, shared) :=
      h.inst.perform script.run c.engine.shared
    (records,
      { c with
        engine := { c.engine with shared := shared }
        held := c.held.insert name { h with inst := inst } })
  | none => ([], c)

/-- Schedules an event under a name. -/
def schedule (c : Custody F) (event : String) (interval : Nat)
    (script : String) : Except HostError Unit × Custody F :=
  match c.engine.schedule interval script with
  | (.ok id, engine) =>
    (.ok (), { c with engine := engine, events := c.events.insert event id })
  | (.error e, engine) => (.error e, { c with engine := engine })

/-- Cancels an event by its name, and says whether it was active. -/
def cancel (c : Custody F) (event : String) : Bool × Custody F :=
  match c.events.get? event with
  | some id =>
    let (found, engine) := c.engine.cancel id
    (found, { c with engine := engine })
  | none => (false, c)

end Custody

end ScriptHost
