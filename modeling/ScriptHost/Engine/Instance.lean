/-
ScriptHost.Engine.Instance — interpreters that are ready to run scripts.

An instance has an identity for good and counts its uses. Configuring one
binds the registry into a fresh interpreter and then sets the globals that
every script finds: the name of the log file, the data directory, where
modules are looked for, and the configuration.

Uses are counted without end here, and in 32 bits by a host. A limit of uses
is a number of 32 bits as well, so a pool takes an instance out before the
count begins again, unless one caller keeps it for 2 ^ 32 runs; without a
limit, nothing looks at the count.
-/
import ScriptHost.Script.Binder
import ScriptHost.Script.Step

namespace ScriptHost

/-- Something that is used again and again. -/
structure Instance (S : Type) where
  id : Nat
  uses : Nat := 0
  state : S

/-! ## Configuring -/

/-- What all instances of a host are made from. -/
structure Blueprint (F : Type) where
  registry : Registry F
  context : HostContext
  /-- Where scripts look for modules. -/
  searchPath : String

namespace Blueprint

variable {F : Type}

/-- The directory of script modules beside the executable. -/
def moduleDirectory : String := "engine"

/-- A path behind a directory. -/
def joinPath (directory name : String) : String :=
  if directory = "" || directory.endsWith "/" then directory ++ name
  else directory ++ "/" ++ name

/-- Where scripts look for modules, given the directory of the
executable. -/
def modulePattern (directory : String) : String :=
  joinPath (joinPath directory moduleDirectory) "?.lua"

/-- The name of the log file of a date. -/
def logFileName (d : Date) : String :=
  Decimal.intText d.year ++ "-" ++ Decimal.intText d.month ++ "-"
    ++ Decimal.intText d.day ++ ".json"

/-- The globals that configuring sets. -/
def logFileGlobal : String := "logFile"
def dataGlobal : String := "serverPath"
def configGlobal : String := "app"

/-- The sections of a configuration, as scripts find them. -/
def configTables (c : Config) : List (String × Json) :=
  [("Main", c.mainSettings), ("PayPal", c.paypal.view),
    ("Captcha", c.captcha.view), ("Mail", c.mail.view),
    ("PayGol", c.paygol.view), ("SSL", c.ssl.view),
    ("Custom", c.customData)]

/-- The settings that scripts find without a section. -/
def shortcuts (c : Config) : List (String × Json) :=
  [("URL", .str c.url), ("Port", .int c.port), ("Mode", .str c.mode),
    ("Datapack", .str c.datapack)]

/-- The configuration as data of the global `app`. -/
def configData (c : Config) : Json :=
  .ofPairs (configTables c ++ shortcuts c)

/-- Sets the globals that every script finds. -/
def setGlobals (b : Blueprint F) (i : Interpreter F) :
    Except HostError (Interpreter F) :=
  let config := b.context.config
  let i := i.setGlobal logFileGlobal
    (.ofText (logFileName b.context.logDate))
  let i := i.setGlobal dataGlobal (.ofText config.datapack)
  match i.global Interpreter.packageName with
  | .table id =>
    let i := i.modifyTable id
      (·.set (.ofText "path") (.ofText b.searchPath))
    let (app, heap) := i.heap.ofJson (configData config)
    .ok ({ i with heap := heap }.setGlobal configGlobal app)
  | v => .error (.script (.conversion v.typeName "table" none))

/-- A new interpreter, ready to run scripts. -/
def configure (b : Blueprint F) : Except HostError (Interpreter F) :=
  match (Binder.bindRegistry b.registry).run
      { interpreter := .fresh (some b.context) } with
  | (.ok (), binder) => b.setGlobals binder.interpreter
  | (.error e, _) => .error e

end Blueprint

/-! ## Running -/

/-- What a run of a script leaves behind. -/
structure Executed (F R : Type) where
  /-- What the script has reported. -/
  report : R
  outcome : Except HostError Response
  inst : Instance (Interpreter F)
  shared : Shared

namespace Instance

variable {F R : Type}

/-- The instance after a use. -/
def used (inst : Instance (Interpreter F)) (i : Interpreter F) :
    Instance (Interpreter F) :=
  { inst with uses := inst.uses + 1, state := i }

/-- What a run returns to its caller. -/
def outcomeOf (ending : Except Abort Unit) (exchange : Option Exchange) :
    Except HostError Response :=
  match ending with
  | .ok () => .ok ((exchange.map Exchange.response).getD {})
  | .error (.raised e) => .error (.script e)
  | .error .panicked => .error .panicked

/-- The interpreter after a run. The request is taken away when the script
ends, with or without an error. A panic leaves it. -/
def afterRun (ending : Except Abort Unit) (i : Interpreter F) :
    Interpreter F :=
  match ending with
  | .error .panicked => i
  | _ => { i with exchange := none }

/-- Runs a script for a request, which is there while the script runs. -/
def execute (program : StateM (World F) (Ended R)) (request : Request)
    (inst : Instance (Interpreter F)) (shared : Shared) : Executed F R :=
  let started :=
    { inst.state with exchange := some (Exchange.start request) }
  let (ended, w) := program.run ⟨started, shared⟩
  { report := ended.report
    outcome := outcomeOf ended.ending w.interpreter.exchange
    inst := inst.used (afterRun ended.ending w.interpreter)
    shared := w.shared }

/-- Runs steps outside of any request, which is no use. -/
def perform (program : StateM (World F) (Ended R))
    (inst : Instance (Interpreter F)) (shared : Shared) :
    R × Instance (Interpreter F) × Shared :=
  let (ended, w) := program.run ⟨inst.state, shared⟩
  (ended.report, { inst with state := w.interpreter }, w.shared)

end Instance

end ScriptHost
