/-
ScriptHost.Engine.Basic — the engine that runs scripts for callers.

An engine makes its instances from one blueprint, keeps them in a pool and
lets them share what all interpreters share. A script is a file, read anew
for every run; a file that cannot be read is no use of the instance.
-/
import ScriptHost.Engine.Pool
import ScriptHost.Script.Source

namespace ScriptHost

/-- An engine. -/
structure Engine (F : Type) where
  blueprint : Blueprint F
  /-- Gone for good once it is closed. -/
  pool : Option (Pool (Interpreter F))
  shared : Shared := {}

/-- A script that was run, and what it has done. -/
structure Run where
  script : String
  records : List Record

namespace Engine

variable {F : Type}

/-- An engine whose pool is empty. -/
def start (blueprint : Blueprint F) (shared : Shared) : Engine F :=
  { blueprint := blueprint
    pool := some { policy := blueprint.context.config.pool }
    shared := shared }

/-! ## Instances -/

/-- What the pool counts. -/
def stats (e : Engine F) : PoolStats :=
  match e.pool with
  | some p => p.stats
  | none => {}

/-- Hands an instance out. -/
def get (e : Engine F) :
    Except HostError (Instance (Interpreter F)) × Engine F :=
  match e.pool with
  | some p =>
    let (inst, p) := p.get e.blueprint.configure
    (inst, { e with pool := some p })
  | none => (.error .panicked, e)

/-- Takes an instance back. -/
def put (e : Engine F) (inst : Instance (Interpreter F)) : Engine F :=
  { e with pool := e.pool.map (·.put inst) }

/-- Makes instances ahead of time. -/
def warm (e : Engine F) (count : Nat) : Except HostError Unit × Engine F :=
  match e.pool with
  | some p =>
    let (done, p) := p.warm e.blueprint.configure count
    (done, { e with pool := some p })
  | none => (.error .panicked, e)

/-- Gives the pool up. -/
def close (e : Engine F) : Engine F := { e with pool := none }

/-! ## Scripts -/

variable [Dispatch F]

/-- The name under which a run is reported. -/
def scriptName (path : String) : String :=
  "/".intercalate (Files.names path)

/-- Runs a file on an instance. -/
def runFile (path : String) (request : Request)
    (inst : Instance (Interpreter F)) (shared : Shared) :
    Executed F (List Run) :=
  match shared.files.readText path with
  | .ok text =>
    let done := inst.execute (Script.runText text) request shared
    { done with report := [⟨scriptName path, done.report⟩] }
  | .error fault =>
    { report := []
      outcome := .error (.fault (.io fault))
      inst := inst
      shared := shared }

/-- The script that a caller gives, under the name of its runs. -/
def mainName : String := "main"

/-- Runs a script that a caller gives on an instance. -/
def runScript (script : Script) (request : Request)
    (inst : Instance (Interpreter F)) (shared : Shared) :
    Executed F (List Run) :=
  let done := inst.execute script.run request shared
  { done with report := [⟨mainName, done.report⟩] }

/-- Runs something on an instance that is handed out for it and then taken
back. -/
def withInstance (e : Engine F)
    (run : Instance (Interpreter F) → Shared → Executed F (List Run)) :
    (Except HostError Response × List Run) × Engine F :=
  match e.get with
  | (.ok inst, e) =>
    let done := run inst e.shared
    ((done.outcome, done.report),
      { e with shared := done.shared }.put done.inst)
  | (.error error, e) => ((.error error, []), e)

end Engine

end ScriptHost
