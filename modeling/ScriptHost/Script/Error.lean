/-
ScriptHost.Script.Error — what can go wrong while a script runs.

Every error is a cause with its own data, and `message` words it. A run can
also be cut off for good by a panic, which no script sees.
-/
import ScriptHost.Host.Fault
import ScriptHost.Text.Quoted
import ScriptHost.Text.Utf8
import ScriptHost.Number.Shortest

namespace ScriptHost

/-! ## Values that are no data -/

/-- A double in plain digits, as a message shows it. -/
def plainFloatText (x : Binary64) : String :=
  let sign := if x.negative then ['-'] else []
  if x.isNaN then "NaN"
  else if x.isInfinite then String.ofList (sign ++ "inf".toList)
  else if x.isZero then String.ofList (sign ++ ['0', '.', '0'])
  else String.ofList (sign ++ Decimal.withPoint x.shortest.positional)

/-- What was found in the place of something else. -/
inductive Found where
  | integer (i : Int64)
  | float (x : Binary64)
  | boolean (b : Bool)
  | nothing
  | sequence
  | map
  | bytes
  /-- A value that is only known by its type. -/
  | value (typeName : String)
  deriving DecidableEq, Repr

/-- How a message shows what was found. -/
def Found.text : Found → String
  | integer i => s!"integer \x60{Decimal.intText i.toInt}\x60"
  | float x => s!"floating point \x60{plainFloatText x}\x60"
  | boolean true => "boolean \x60true\x60"
  | boolean false => "boolean \x60false\x60"
  | nothing => "Option value"
  | sequence => "sequence"
  | map => "map"
  | bytes => "byte array"
  | value typeName => typeName

/-- What was expected. -/
inductive Expected where
  | textKey
  | json
  | text
  | table
  | fieldName
  deriving DecidableEq, Repr

/-- How a message names what was expected. -/
def Expected.description : Expected → String
  | textKey => "a string key"
  | json => "any valid JSON value"
  | text => "a string"
  | table => "table"
  | fieldName => "field identifier"

/-- Why a value cannot become data. -/
inductive DataError where
  /-- A function or a handle. -/
  | unsupported (typeName : String)
  /-- A table inside itself. -/
  | recursive
  | wrongType (found : Found) (expected : Expected)
  /-- The type fits, the bytes do not. -/
  | wrongBytes
  deriving DecidableEq, Repr

/-- The wording of a data error. -/
def DataError.message : DataError → String
  | unsupported typeName => s!"unsupported value type \x60{typeName}\x60"
  | recursive => "recursive table detected"
  | wrongType found expected =>
    s!"invalid type: {found.text}, expected {expected.description}"
  | wrongBytes => "invalid value: byte array, expected a string"

/-! ## Complaints of the capabilities -/

/-- What a capability complains about in its own words. -/
inductive Complaint where
  | noHost
  | reserved (name : String)
  | sqlExpected
  | mailDisabled
  | mailAddress
  | mailNoRecipients
  | cacheExpiry
  | urlEncoding (error : Utf8.DecodeError)
  | urlEscape (shown : String)
  | timestamp (seconds : Int)
  | duration (text : String)
  | jsonText
  | eventInterval
  | payPalDisabled
  | imageSize
  | fileStat (path : String) (fault : IoFault)
  | variableName (name : String)
  | playerKey (typeName : String)
  | xmlRead (path : String) (fault : IoFault)
  | xmlOpen (name : String)
  | xmlNoRoot
  | xmlSecondRoot
  | xmlNameless
  /-- An error that the script itself raised. -/
  | raised (text : String)
  deriving DecidableEq, Repr

/-- The wording of a complaint. -/
def Complaint.message : Complaint → String
  | noHost => "instance has no host context"
  | reserved name => s!"{name} is not implemented"
  | sqlExpected => "db: expected an SQL string"
  | mailDisabled => "mail is disabled in the configuration"
  | mailAddress => "mail: expected an address or a list of addresses"
  | mailNoRecipients => "mail: no recipients"
  | cacheExpiry => "cache: invalid expiry"
  | urlEncoding error => s!"url: invalid encoding: {error.message}"
  | urlEscape shown => s!"url: invalid escape \"%{shown}\""
  | timestamp seconds =>
    s!"time: timestamp {Decimal.intText seconds} is out of range"
  | duration text => s!"time: invalid duration {quoted text}"
  | jsonText => "json: ..."
  | eventInterval => "events: invalid interval"
  | payPalDisabled => "PayPal is disabled in the configuration"
  | imageSize => "img: width and height must be positive"
  | fileStat path fault => s!"file: cannot stat {path}: {fault.message}"
  | variableName name => s!"env: invalid variable {quoted name}"
  | playerKey typeName =>
    s!"Player: expected a name or an id, got {typeName}"
  | xmlRead path fault => s!"xml: cannot read {path}: {fault.message}"
  | xmlOpen name => s!"xml: element <{name}> is not closed"
  | xmlNoRoot => "xml: document has no root element"
  | xmlSecondRoot => "xml: more than one root element"
  | xmlNameless => "xml: element without a name"
  | raised text => text

/-! ## Errors -/

/-- An error that a script can see. -/
inductive ScriptError where
  | complaint (c : Complaint)
  /-- A value of one type cannot be used as another, with a reason. -/
  | conversion (source target : String) (reason : Option String)
  | data (e : DataError)
  /-- A handle to host state of another kind. -/
  | wrongHandle
  /-- Text that is no XML. -/
  | markup
  /-- Text that is no script. -/
  | unreadable
  | fault (f : HostFault)
  deriving DecidableEq, Repr

/-- The wording of an error. -/
def ScriptError.message : ScriptError → String
  | complaint c => c.message
  | conversion source target none =>
    s!"error converting Lua {source} to {target}"
  | conversion source target (some reason) =>
    s!"error converting Lua {source} to {target} ({reason})"
  | data e => e.message
  | wrongHandle => "userdata is not expected type"
  | markup => "malformed XML"
  | unreadable => "malformed script"
  | fault f => f.message

/-- Why a call does not return. -/
inductive Abort where
  | raised (e : ScriptError)
  | panicked
  deriving DecidableEq, Repr

/-- An error outside of a script: one that a script let through, a fault of
the host itself, or a panic. -/
inductive HostError where
  | script (e : ScriptError)
  | fault (f : HostFault)
  | panicked
  deriving DecidableEq, Repr

/-- The wording of an error outside of a script. -/
def HostError.message : HostError → String
  | script e => e.message
  | fault f => f.message
  | panicked => "the script panicked"

end ScriptHost
