/-
ScriptHost.Config.View — the configuration as scripts see it.

Sections and settings get their script-facing names. `Config.view` is the
whole configuration without the pool's limits, `Config.mainSettings` what
belongs to no section, and `Config.lookup?` follows a path of names with
dots between them, first in the view and then among the custom settings.
-/
import ScriptHost.Config.Settings

namespace ScriptHost

/-- A list of texts as data. -/
def textsJson (texts : List String) : Json := .arr (texts.map Json.str)

def PayPalSettings.view (s : PayPalSettings) : Json :=
  .ofPairs [("Enabled", .bool s.enabled), ("PublicKey", .str s.publicKey),
    ("SecretKey", .str s.secretKey), ("Mode", .str s.mode),
    ("Currency", .str s.currency)]

def CaptchaSettings.view (s : CaptchaSettings) : Json :=
  .ofPairs [("Enabled", .bool s.enabled), ("PublicKey", .str s.publicKey),
    ("SecretKey", .str s.secretKey)]

def MailSettings.view (s : MailSettings) : Json :=
  .ofPairs [("Enabled", .bool s.enabled), ("Server", .str s.server),
    ("Port", .int s.port), ("Username", .str s.username),
    ("Password", .str s.password)]

def PayGolSettings.view (s : PayGolSettings) : Json :=
  .ofPairs [("Enabled", .bool s.enabled), ("Service", .int s.service),
    ("Currency", .str s.currency), ("Language", .str s.language)]

def SslSettings.view (s : SslSettings) : Json :=
  .ofPairs [("Enabled", .bool s.enabled), ("Cert", .str s.cert),
    ("Key", .str s.key), ("Port", .int s.port)]

namespace Config

/-- The custom settings as JSON data. -/
def customData (c : Config) : Json := .obj (Toml.dataFields c.custom.entries)

/-- The custom settings as JSON text can hold them. -/
def customView (c : Config) : Json := .obj (Toml.viewFields c.custom.entries)

/-- The settings that belong to no section. -/
def settings (c : Config) : List (String × Json) :=
  [("URL", .str c.url), ("Port", .int c.port), ("Mode", .str c.mode),
    ("Datapack", .str c.datapack), ("LogLevel", .str c.logLevel),
    ("Secret", .str c.secret), ("Blacklist", textsJson c.blacklist),
    ("NewCharVocations", textsJson c.newCharVocations),
    ("NewCharTowns", textsJson c.newCharTowns)]

/-- The sections, the custom settings among them. -/
def sections (c : Config) : List (String × Json) :=
  [("PayPal", c.paypal.view), ("Captcha", c.captcha.view),
    ("Mail", c.mail.view), ("PayGol", c.paygol.view), ("SSL", c.ssl.view),
    ("Custom", c.customView)]

/-- The configuration as scripts see it. -/
def view (c : Config) : Json := .ofPairs (c.settings ++ c.sections)

/-- The part of the view that is not a section. -/
def mainSettings (c : Config) : Json :=
  match c.view with
  | .obj fields => .obj (fields.filter fun p => !p.2.isObject)
  | j => j

/-- Follows a row of field names. -/
def follow? (root : Json) (names : List String) : Option Json :=
  names.foldlM (fun j name => j.field? name) root

/-- Splits a path at its dots. -/
def splitPath (path : String) : List String :=
  (path.toList.splitOn '.').map String.ofList

/-- What a path leads to: in the view, else among the custom settings. -/
def lookup? (c : Config) (path : String) : Option Json :=
  let names := splitPath path
  match follow? c.view names with
  | some j => some j
  | none => follow? c.customView names

end Config

end ScriptHost
