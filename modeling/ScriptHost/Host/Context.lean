/-
ScriptHost.Host.Context — what the host gives to every interpreter.

The context never changes while the host runs. The state that all
interpreters share and change is `Shared`.
-/
import ScriptHost.Config.View
import ScriptHost.Host.Service
import ScriptHost.Host.Cache
import ScriptHost.Host.Files
import ScriptHost.Host.Scheduler
import ScriptHost.Time.Civil

namespace ScriptHost

/-- What the host gives to every interpreter. -/
structure HostContext where
  config : Config := {}
  gameData : GameData := {}
  /-- The date of the last change of the log file. -/
  logDate : Date := ⟨2023, 1, 5⟩
  services : Services := Services.none

/-- What all interpreters of a host share. -/
structure Shared where
  cache : Cache := {}
  /-- Values that scripts keep for good. -/
  storage : KeyMap Json := ∅
  /-- The variables of the environment. -/
  environment : KeyMap String := ∅
  files : Files := {}
  clock : Clock := {}
  /-- What the next random choice depends on. -/
  entropy : Nat := 1
  /-- What the services were asked, last first. -/
  history : List Interaction := []
  /-- The schedulers of events. -/
  agenda : Agenda := {}

namespace Shared

/-- Writes a value to the storage; null removes the key. -/
def store (s : Shared) (key : String) (value : Json) : Shared :=
  if value.isNull then { s with storage := s.storage.erase key }
  else { s with storage := s.storage.insert key value }

end Shared

end ScriptHost
