/-
ScriptHost.Config.Decode — configurations from data.

Every setting may be left out and then has its default; unknown settings
are skipped. A date among the custom settings comes as an object whose
first field has the name of `Toml.dateField`. In JSON data it has no other
field and the fields of all objects come in key order; in a configuration
file the order is that of writing, and what follows the date is left out.
-/
import ScriptHost.Config.Settings
import ScriptHost.Json.Decode
import ScriptHost.Toml.Date

namespace ScriptHost

open Json.Decode

mutual
/-- A custom setting. Null and integers beyond 64 bits are none. -/
def Toml.ofJson? : Json → Option Toml
  | .null => none
  | .bool b => some (.bool b)
  | .int i =>
    if Word.isSigned i then some (.int (Int64.ofInt i))
    else none
  | .float x => some (.float x)
  | .str s => some (.str s)
  | .arr items => (Toml.ofJsonItems? items).map .arr
  | .obj fields =>
    match fields with
    | [(name, .str text)] =>
      if name = dateField then (DateTime.normalize? text).map .date
      else some (.table [(name, .str text)])
    | (name, _) :: _ =>
      if name = dateField then none
      else (Toml.ofJsonFields? fields).map .table
    | [] => some (.table [])

/-- `ofJson?` for the items of an array. -/
def Toml.ofJsonItems? : List Json → Option (List Toml)
  | [] => some []
  | j :: rest => do
    let t ← Toml.ofJson? j
    let ts ← Toml.ofJsonItems? rest
    pure (t :: ts)

/-- `ofJson?` for the fields of an object. -/
def Toml.ofJsonFields? : List (String × Json) → Option (List (String × Toml))
  | [] => some []
  | (k, j) :: rest => do
    let t ← Toml.ofJson? j
    let ts ← Toml.ofJsonFields? rest
    pure ((k, t) :: ts)
end

mutual
/-- A custom setting of a configuration file, its fields in key order. -/
def Toml.settle? : Toml → Option Toml
  | .arr items => (Toml.settleItems? items).map .arr
  | .table fields =>
    match fields with
    | (name, value) :: _ =>
      if name = dateField then
        match value with
        | .str text => (DateTime.normalize? text).map .date
        | _ => none
      else (Toml.settleFields? fields).map .table
    | [] => some (.table [])
  | t => some t

/-- `settle?` for the items of an array. -/
def Toml.settleItems? : List Toml → Option (List Toml)
  | [] => some []
  | t :: rest => do
    let t ← Toml.settle? t
    let ts ← Toml.settleItems? rest
    pure (t :: ts)

/-- `settle?` for the fields of a table. -/
def Toml.settleFields? :
    List (String × Toml) → Option (List (String × Toml))
  | [] => some []
  | (k, t) :: rest => do
    let t ← Toml.settle? t
    let ts ← Toml.settleFields? rest
    pure (Fields.insert k t ts)
end

/-- The custom settings of a configuration file. A lone date is a setting
with the name of its field. -/
def Toml.settings? : Toml → Option (KeyMap Toml)
  | .table fields => (Toml.settleFields? fields).map KeyMap.ofList
  | .date text => some (.ofList [(dateField, .str text)])
  | _ => none

/-- A port. -/
def portNumber : Json.Decoder Nat := natUpTo 65535

/-- A list of texts. -/
def texts : Json.Decoder (List String) := list text

def PayPalSettings.decode (exact : Bool) : Json.Decoder PayPalSettings :=
  fun j => do
    match ← slots exact
      ["enabled", "public_key", "secret_key", "mode", "currency"] j with
    | [enabled, publicKey, secretKey, mode, currency] =>
      let d : PayPalSettings := {}
      pure {
        enabled := ← withDefault d.enabled bool enabled
        publicKey := ← withDefault d.publicKey text publicKey
        secretKey := ← withDefault d.secretKey text secretKey
        mode := ← withDefault d.mode text mode
        currency := ← withDefault d.currency text currency }
    | _ => none

def CaptchaSettings.decode (exact : Bool) : Json.Decoder CaptchaSettings :=
  fun j => do
    match ← slots exact ["enabled", "public_key", "secret_key"] j with
    | [enabled, publicKey, secretKey] =>
      let d : CaptchaSettings := {}
      pure {
        enabled := ← withDefault d.enabled bool enabled
        publicKey := ← withDefault d.publicKey text publicKey
        secretKey := ← withDefault d.secretKey text secretKey }
    | _ => none

def MailSettings.decode (exact : Bool) : Json.Decoder MailSettings :=
  fun j => do
    match ← slots exact
      ["enabled", "server", "port", "username", "password"] j with
    | [enabled, server, port, username, password] =>
      let d : MailSettings := {}
      pure {
        enabled := ← withDefault d.enabled bool enabled
        server := ← withDefault d.server text server
        port := ← withDefault d.port portNumber port
        username := ← withDefault d.username text username
        password := ← withDefault d.password text password }
    | _ => none

def PayGolSettings.decode (exact : Bool) : Json.Decoder PayGolSettings :=
  fun j => do
    match ← slots exact ["enabled", "service", "currency", "language"] j with
    | [enabled, service, currency, language] =>
      let d : PayGolSettings := {}
      pure {
        enabled := ← withDefault d.enabled bool enabled
        service := ← withDefault d.service int64 service
        currency := ← withDefault d.currency text currency
        language := ← withDefault d.language text language }
    | _ => none

def SslSettings.decode (exact : Bool) : Json.Decoder SslSettings :=
  fun j => do
    match ← slots exact ["enabled", "cert", "key", "port"] j with
    | [enabled, cert, key, port] =>
      let d : SslSettings := {}
      pure {
        enabled := ← withDefault d.enabled bool enabled
        cert := ← withDefault d.cert text cert
        key := ← withDefault d.key text key
        port := ← withDefault d.port portNumber port }
    | _ => none

def PoolPolicy.decode (exact : Bool) : Json.Decoder PoolPolicy :=
  fun j => do
    match ← slots exact ["max_idle", "max_uses"] j with
    | [maxIdle, maxUses] =>
      pure {
        maxIdle := ← withDefault none (optional (natUpTo Word.max64)) maxIdle
        maxUses := ← withDefault none (optional (natUpTo Word.max32)) maxUses }
    | _ => none

/-- The settings' names in configuration files. -/
def Config.fileNames : List String :=
  ["url", "port", "mode", "datapack", "log_level", "secret", "blacklist",
    "new_char_vocations", "new_char_towns", "paypal", "captcha", "mail",
    "paygol", "ssl", "custom", "pool"]

/-- A configuration. Records given as arrays must not be too long if
`exact`. -/
def Config.decode (exact : Bool) : Json.Decoder Config :=
  fun j => do
    match ← slots exact Config.fileNames j with
    | [url, port, mode, datapack, logLevel, secret, blacklist, vocations,
        towns, paypal, captcha, mail, paygol, ssl, custom, pool] =>
      let d : Config := {}
      pure {
        url := ← withDefault d.url text url
        port := ← withDefault d.port portNumber port
        mode := ← withDefault d.mode text mode
        datapack := ← withDefault d.datapack text datapack
        logLevel := ← withDefault d.logLevel text logLevel
        secret := ← withDefault d.secret text secret
        blacklist := ← withDefault d.blacklist texts blacklist
        newCharVocations := ← withDefault d.newCharVocations texts vocations
        newCharTowns := ← withDefault d.newCharTowns texts towns
        paypal := ← withDefault d.paypal (PayPalSettings.decode exact) paypal
        captcha := ← withDefault d.captcha (CaptchaSettings.decode exact) captcha
        mail := ← withDefault d.mail (MailSettings.decode exact) mail
        paygol := ← withDefault d.paygol (PayGolSettings.decode exact) paygol
        ssl := ← withDefault d.ssl (SslSettings.decode exact) ssl
        custom := ← withDefault d.custom (map Toml.ofJson?) custom
        pool := ← withDefault d.pool (PoolPolicy.decode exact) pool }
    | _ => none

/-- The name of the custom settings in configuration files. -/
def Config.customName : String := "custom"

/-- The configuration of a file with the given root table. -/
def Config.ofTable? (table : List (String × Toml)) : Option Config := do
  let others := Fields.erase customName table
  let c ← Config.decode false (.obj (Toml.dataFields others))
  match Fields.find? customName table with
  | some t => pure { c with custom := ← t.settings? }
  | none => pure c

end ScriptHost
