/-
ScriptHost.Main — the host on the command line.

The host loads its configuration, runs the scripts of the command line in
order, and prints each response as JSON. As long as events are scheduled it
goes on running them. Errors go to the standard error stream.

A run sees the files that were read for it: the configuration and the
scripts, those of events included.
-/
import ScriptHost.App.Application
import ScriptHost.App.Arguments
import ScriptHost.App.LogFilter
import ScriptHost.Json.Text
import Std.Time.DateTime.Timestamp

namespace ScriptHost.Main

/-! ## The surroundings -/

/-- Where the configuration lies if the command line does not say so. -/
def defaultConfigPath : IO String := do
  let home := (← IO.getEnv "HOME").getD ""
  let base := (← IO.getEnv "XDG_CONFIG_HOME").getD
    (Blueprint.joinPath home ".config")
  pure (Blueprint.joinPath base "ember/config.toml")

/-- Reads a file, if there is one. -/
def withFile (files : Files) (path : String) : IO Files := do
  match ← (IO.FS.readBinFile path).toBaseIO with
  | .ok content => pure (files.insert path content.toList)
  | .error _ => pure files

/-- What the clocks show now. -/
def readClock : IO Clock := do
  let now ← Std.Time.Timestamp.now
  pure { unix := now.toSecondsSinceUnixEpoch.val
         steady := ← IO.monoNanosNow }

/-- A state for random choices. -/
def readEntropy : IO Nat := do
  let bytes ← IO.getRandomBytes 8
  pure (bytes.toList.foldl (fun n b => 256 * n + b.toNat) 0)

/-- What the interpreters share when the host starts. -/
def readShared (paths : List String) : IO Shared := do
  let files ← paths.foldlM withFile {}
  pure { files := files, clock := ← readClock, entropy := ← readEntropy
         agenda := { hasRuntime := true } }

/-- The directory of the executable. -/
def directory : IO String := do pure (toString (← IO.appDir))

/-! ## Running -/

/-- Reports an error with its cause. -/
def complain (e : AppError) : IO Unit :=
  IO.eprintln s!"{e.message}: {e.cause.message}"

/-- Runs a script, prints its response, and says whether it succeeded. -/
def runScript (path : String) (e : Engine Capability) :
    IO (Bool × Engine Capability) := do
  let clock ← readClock
  let e := { e with shared := { e.shared with clock := clock } }
  let ((outcome, _), e) := App.runScript path e
  match outcome with
  | .ok response => do
    IO.println response.toJson.pretty
    (← IO.getStdout).flush
    pure (true, e)
  | .error error => do
    complain error
    pure (false, e)

/-- Runs scripts in order, and says whether all have succeeded. -/
def runScripts : List String → Engine Capability →
    IO (Bool × Engine Capability)
  | [], e => pure (true, e)
  | path :: rest, e => do
    let (done, e) ← runScript path e
    let (others, e) ← runScripts rest e
    pure (done && others, e)

/-- How often events are looked after, in milliseconds. -/
def pollInterval : UInt32 := 100

/-- Runs events as long as there are any. -/
partial def runEvents (e : Engine Capability) : IO Unit := do
  if e.active = 0 then pure ()
  else do
    IO.sleep pollInterval
    let scripts := e.shared.agenda.jobs.map Job.script
    let files ← scripts.foldlM withFile e.shared.files
    let clock ← readClock
    let e := { e with shared :=
      { e.shared with files := files, clock := clock } }
    runEvents (e.advance pollInterval.toNat).2

/-- Starts a host with a configuration and runs scripts on it. -/
def runHost (config : Config) (shared : Shared) (scripts : List String) :
    IO UInt32 := do
  let date := (Instant.ofUnix? shared.clock.unix).map Instant.date
  let context : HostContext :=
    { config := config, logDate := date.getD ⟨1970, 1, 1⟩ }
  match App.start context (← directory) shared with
  | .ok engine => do
    let (done, engine) ← runScripts scripts engine
    runEvents engine
    if done then pure 0
    else do
      IO.eprintln "one or more scripts failed"
      pure 1
  | .error error => do
    complain error
    pure 1

/-- Does what the command line says. -/
def runArguments (arguments : Arguments) : IO UInt32 := do
  let defaultPath ← defaultConfigPath
  let shared ←
    readShared (arguments.config.getD defaultPath :: arguments.scripts)
  match App.loadConfig shared.files arguments.config defaultPath with
  | .ok config =>
    match LogFilter.check config.logLevel with
    | .ok () => runHost config shared arguments.scripts
    | .error _ => do
      IO.eprintln s!"invalid log level {config.logLevel}"
      pure 1
  | .error error => do
    complain error
    pure 1

end ScriptHost.Main

/-- Runs the host. -/
def main (args : List String) : IO UInt32 := do
  match ScriptHost.Arguments.read args with
  | .ok arguments => ScriptHost.Main.runArguments arguments
  | .error error => do
    IO.eprintln error.message
    pure 1
