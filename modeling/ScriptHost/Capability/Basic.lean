/-
ScriptHost.Capability.Basic — all functions that scripts can be given.
-/
import ScriptHost.Capability.Captcha
import ScriptHost.Capability.Crypto
import ScriptHost.Capability.Database
import ScriptHost.Capability.Debug
import ScriptHost.Capability.Environment
import ScriptHost.Capability.Event
import ScriptHost.Capability.FileInfo
import ScriptHost.Capability.FormCoding
import ScriptHost.Capability.Http
import ScriptHost.Capability.Image
import ScriptHost.Capability.JsonCoding
import ScriptHost.Capability.MailSending
import ScriptHost.Capability.Payment
import ScriptHost.Capability.Player
import ScriptHost.Capability.Sample
import ScriptHost.Capability.SessionData
import ScriptHost.Capability.Settings
import ScriptHost.Capability.SharedCache
import ScriptHost.Capability.Storage
import ScriptHost.Capability.Time
import ScriptHost.Capability.Validator
import ScriptHost.Capability.Widget
import ScriptHost.Capability.WorldMap
import ScriptHost.Capability.Xml

namespace ScriptHost

/-- A function that scripts can be given. -/
inductive Capability where
  | crypto (f : CryptoFunction)
  | database (f : DatabaseFunction)
  | settings (f : SettingsFunction)
  | http (f : HttpFunction)
  | validator (f : ValidatorFunction)
  | session (f : SessionFunction)
  | captcha (f : CaptchaFunction)
  | map (f : MapFunction)
  | xml (f : XmlFunction)
  | mail (f : MailFunction)
  | cache (f : CacheFunction)
  | debug (f : DebugFunction)
  | url (f : UrlFunction)
  | time (f : TimeFunction)
  | json (f : JsonFunction)
  | storage (f : StorageFunction)
  | widget (f : WidgetFunction)
  | events (f : EventsFunction)
  | event (f : EventFunction)
  | payment (f : PaymentFunction)
  | images (f : ImagesFunction)
  | image (f : ImageFunction)
  | file (f : FileFunction)
  | environment (f : EnvironmentFunction)
  | player (f : PlayerFunction)
  /-- Looks a player up. -/
  | findPlayer
  | sample (f : SampleFunction)
  deriving DecidableEq, Repr

namespace Capability

variable {F : Type}

/-- What a function does with its arguments. -/
def run : Capability → List Value → Action F (List Value)
  | crypto f => f.run
  | database f => f.run
  | settings f => f.run
  | http f => f.run
  | validator f => f.run
  | session f => f.run
  | captcha f => f.run
  | map f => f.run
  | xml f => f.run
  | mail f => f.run
  | cache f => f.run
  | debug f => f.run
  | url f => f.run
  | time f => f.run
  | json f => f.run
  | storage f => f.run
  | widget f => f.run
  | events f => f.run
  | event f => f.run
  | payment f => f.run
  | images f => f.run
  | image f => f.run
  | file f => f.run
  | environment f => f.run
  | player f => f.run
  | findPlayer => PlayerFunction.find
  | sample f => f.run

end Capability

/-- An interpreter with the functions of this library. -/
abbrev ScriptInterpreter := Interpreter Capability

end ScriptHost
