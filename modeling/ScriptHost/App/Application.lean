/-
ScriptHost.App.Application — the host as one application.

It loads its configuration, makes one instance ahead of time so that a
defect shows at once, and then runs scripts on its own behalf.
-/
import ScriptHost.App.Arguments
import ScriptHost.Capability.Catalog
import ScriptHost.Config.Decode
import ScriptHost.Engine.Events
import ScriptHost.Toml.Text

namespace ScriptHost

instance : Dispatch Capability where
  run := Capability.run

/-! ## Configuration -/

namespace Config

/-- A configuration that is free of defects. -/
def checked (c : Config) : Except HostFault Config :=
  match c.check with
  | some defect => .error (.invalidConfig defect)
  | none => .ok c

/-- The configuration that a text in TOML describes. -/
def ofToml (text : String) : Except HostFault Config :=
  match Toml.parse? text with
  | some table =>
    match Config.ofTable? table with
    | some c => c.checked
    | none => .error .toml
  | none => .error .toml

/-- The configuration in a file. -/
def load (files : Files) (path : String) : Except HostFault Config :=
  match files.readText path with
  | .ok text => ofToml text
  | .error fault => .error (.io fault)

end Config

/-! ## The application -/

/-- Why the application cannot do something: what that was, and the cause. -/
inductive AppError where
  | config (path : String) (cause : HostError)
  | firstInstance (cause : HostError)
  | script (path : String) (cause : HostError)
  deriving DecidableEq, Repr

namespace AppError

/-- What could not be done. -/
def message : AppError → String
  | config path _ => s!"Failed to load config from {path}"
  | firstInstance _ => "Failed to configure the first script instance"
  | script path _ => s!"Script {path} failed"

/-- Why. -/
def cause : AppError → HostError
  | config _ e => e
  | firstInstance e => e
  | script _ e => e

end AppError

namespace App

/-- Loads the configuration from a path that was given, which must be
there, or from the default place, where it may be missing. -/
def loadConfig (files : Files) (path : Option String)
    (defaultPath : String) : Except AppError Config :=
  let load (path : String) : Except AppError Config :=
    match Config.load files path with
    | .ok c => .ok c
    | .error fault => .error (.config path (.fault fault))
  match path with
  | some path => load path
  | none =>
    if files.doesExist defaultPath then load defaultPath else .ok {}

/-- What all instances of a host are made from, given the directory of its
executable. -/
def blueprint (context : HostContext) (directory : String) :
    Blueprint Capability :=
  { registry := Capability.catalog
    context := context
    searchPath := Blueprint.modulePattern directory }

/-- Starts a host. -/
def start (context : HostContext) (directory : String) (shared : Shared) :
    Except AppError (Engine Capability) :=
  match (Engine.start (blueprint context directory) shared).warm 1 with
  | (.ok (), e) => .ok e.attach
  | (.error cause, _) => .error (.firstInstance cause)

/-- Runs a script file on the host's own behalf. -/
def runScript (path : String) (e : Engine Capability) :
    (Except AppError Response × List Run) × Engine Capability :=
  let ((outcome, runs), e) := e.withInstance (Engine.runFile path .internal)
  match outcome with
  | .ok response => ((.ok response, runs), e)
  | .error cause => ((.error (.script path cause), runs), e)

end App

end ScriptHost
