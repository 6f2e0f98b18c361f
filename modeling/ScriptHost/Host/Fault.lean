/-
ScriptHost.Host.Fault — what can go wrong on the host's side.

A fault is a cause; `HostFault.message` words it. A service that the host
was not given is unavailable; one that could not do its work says so in its
own words.
-/
import ScriptHost.Config.Settings

namespace ScriptHost

/-- The services that a host may be given. -/
inductive ServiceKind where
  | database
  | template
  | mail
  | payment
  | captcha
  | image
  | player
  | event
  deriving DecidableEq, Repr

/-- The name of a service in messages. -/
def ServiceKind.name : ServiceKind → String
  | database => "database"
  | template => "template"
  | mail => "mail"
  | payment => "payment"
  | captcha => "captcha"
  | image => "image"
  | player => "player"
  | event => "event"

/-- Why a file cannot be used. -/
inductive IoFault where
  | notFound
  | notADirectory
  | isADirectory
  | nameTooLong
  /-- The content is no UTF-8. -/
  | notText
  /-- The path holds the character zero. -/
  | zeroInPath
  deriving DecidableEq, Repr

/-- The wording of a file fault. -/
def IoFault.message : IoFault → String
  | notFound => "No such file or directory (os error 2)"
  | notADirectory => "Not a directory (os error 20)"
  | isADirectory => "Is a directory (os error 21)"
  | nameTooLong => "File name too long (os error 36)"
  | notText => "stream did not contain valid UTF-8"
  | zeroInPath => "file name contained an unexpected NUL byte"

/-- A fault of the host. -/
inductive HostFault where
  /-- A global or class of this name is already there. -/
  | collision (name : String)
  /-- A registered module, method or factory is missing. -/
  | unbound (name : String)
  | invalidConfig (defect : ConfigDefect)
  | unavailable (kind : ServiceKind)
  /-- A service could not do its work. -/
  | service (text : String)
  /-- There is no run whose request could be used. -/
  | noActiveRequest
  | io (fault : IoFault)
  /-- A configuration file that cannot be read. -/
  | toml
  /-- Data that does not fit its type. -/
  | data
  deriving DecidableEq, Repr

/-- The wording of a fault. -/
def HostFault.message : HostFault → String
  | collision name => s!"Binding collision: global '{name}' is already defined"
  | unbound name =>
    s!"Capability module '{name}' is registered but was not bound"
  | invalidConfig defect => s!"Invalid configuration: {defect.message}"
  | unavailable kind => s!"{kind.name} service is not configured"
  | service text => s!"Service error: {text}"
  | noActiveRequest => "No active request on this instance"
  | io fault => s!"IO error: {fault.message}"
  | toml => "TOML error"
  | data => "JSON error"

end ScriptHost
