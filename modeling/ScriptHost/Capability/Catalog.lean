/-
ScriptHost.Capability.Catalog — the registry that every host offers.
-/
import ScriptHost.Capability.Basic
import ScriptHost.Script.Registry

namespace ScriptHost.Capability

/-- A module of functions of one kind. -/
def group {α : Type} (name : String) (kind : α → Capability)
    (named : List (String × α)) : Module Capability :=
  .ofFunctions name (named.map fun (method, f) => (method, kind f))

/-- An object type with functions of one kind. -/
def objects {α : Type} (name : String) (kind : α → Capability)
    (named : List (String × α)) : Module Capability :=
  .ofMethods name (named.map fun (method, f) => (method, kind f))

/-- The modules of every host, in the order in which they are bound. -/
def modules : List (Module Capability) :=
  [group "crypto" crypto CryptoFunction.named,
    group "db" database DatabaseFunction.named,
    group "config" settings SettingsFunction.named,
    group "http" http HttpFunction.named,
    group "validator" validator ValidatorFunction.named,
    group "session" session SessionFunction.named,
    group "captcha" captcha CaptchaFunction.named,
    group "map" map MapFunction.named,
    group "xml" xml XmlFunction.named,
    group "mail" mail MailFunction.named,
    group "cache" cache CacheFunction.named,
    group "debug" debug DebugFunction.named,
    group "url" url UrlFunction.named,
    group "time" time TimeFunction.named,
    (Module.ofFunctions "reflect" []).reserve "getGlobal",
    group "json" json JsonFunction.named,
    group "storage" storage StorageFunction.named,
    group "widget" widget WidgetFunction.named,
    group "events" events EventsFunction.named,
    objects eventType event EventFunction.named,
    group "paypal" payment PaymentFunction.named,
    group "img" images ImagesFunction.named,
    objects imageType image ImageFunction.named,
    group "file" file FileFunction.named,
    group "env" environment EnvironmentFunction.named,
    objects playerType player PlayerFunction.named]

/-- The global functions of every host. -/
def factories : List (Factory Capability) :=
  [{ name := playerFactory, function := findPlayer }]

/-- Everything that every host offers to scripts. -/
def catalog : Registry Capability :=
  { modules := modules, factories := factories }

end ScriptHost.Capability
