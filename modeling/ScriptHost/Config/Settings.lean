/-
ScriptHost.Config.Settings — the configuration of the host.

`Config` holds the settings with their defaults, one record per section.
`Config.check` names the first defect of a configuration; a configuration
without defect may be used.
-/
import ScriptHost.Toml.Value
import ScriptHost.Text.Blank

namespace ScriptHost

/-- Payments. -/
structure PayPalSettings where
  enabled : Bool := false
  publicKey : String := ""
  secretKey : String := ""
  mode : String := "sandbox"
  currency : String := "EUR"

/-- Captchas. -/
structure CaptchaSettings where
  enabled : Bool := false
  publicKey : String := ""
  secretKey : String := ""

/-- Outbound mail. -/
structure MailSettings where
  enabled : Bool := false
  server : String := ""
  port : Nat := 587
  username : String := ""
  password : String := ""

/-- Payments by phone. -/
structure PayGolSettings where
  enabled : Bool := false
  service : Int := 0
  currency : String := "EUR"
  language : String := "en"

/-- Encrypted connections. -/
structure SslSettings where
  enabled : Bool := false
  cert : String := ""
  key : String := ""
  port : Nat := 443

/-- How many instances the pool keeps, and for how long. Without a limit
the pool grows on demand and an instance is used again and again. -/
structure PoolPolicy where
  /-- Idle instances that are kept at most. -/
  maxIdle : Option Nat := none
  /-- Uses after which an instance is not kept any more. -/
  maxUses : Option Nat := none
  deriving DecidableEq

/-- The configuration of the host. -/
structure Config where
  url : String := "http://localhost:8080"
  port : Nat := 8080
  mode : String := "dev"
  datapack : String := "data"
  logLevel : String := "info"
  secret : String := ""
  blacklist : List String := []
  newCharVocations : List String := []
  newCharTowns : List String := []
  paypal : PayPalSettings := {}
  captcha : CaptchaSettings := {}
  mail : MailSettings := {}
  paygol : PayGolSettings := {}
  ssl : SslSettings := {}
  /-- Settings that only scripts give a meaning to. -/
  custom : KeyMap Toml := ∅
  pool : PoolPolicy := {}

/-- What can be wrong with a configuration. -/
inductive ConfigDefect where
  | portZero
  | modeEmpty
  | logLevel (level : String)
  | payPalMode (mode : String)
  | maxUsesZero
  deriving DecidableEq, Repr

namespace ConfigDefect

/-- The wording of a defect. -/
def message : ConfigDefect → String
  | portZero => "port must be greater than 0"
  | modeEmpty => "mode must not be empty"
  | logLevel level =>
    s!"Invalid log_level: {level}. Must be one of: "
      ++ "trace, debug, info, warn, error"
  | payPalMode mode => s!"paypal.mode must be sandbox or live, got {mode}"
  | maxUsesZero => "pool.max_uses must be greater than 0"

end ConfigDefect

namespace Config

/-- The log levels that a configuration may name. -/
def logLevels : List String := ["trace", "debug", "info", "warn", "error"]

/-- The modes of a payment account. -/
def payPalModes : List String := ["sandbox", "live"]

/-- The first defect of a configuration. -/
def check (c : Config) : Option ConfigDefect :=
  if c.port = 0 then some .portZero
  else if trim c.mode = "" then some .modeEmpty
  else if !logLevels.contains c.logLevel then some (.logLevel c.logLevel)
  else if c.paypal.enabled && !payPalModes.contains c.paypal.mode then
    some (.payPalMode c.paypal.mode)
  else if c.pool.maxUses = some 0 then some .maxUsesZero
  else none

end Config

end ScriptHost
