/-
ScriptHost.Capability.Http — the request of a run, and the response to it.
-/
import ScriptHost.Script.Action

namespace ScriptHost

/-- The functions of `http`. -/
inductive HttpFunction where
  | redirect
  | render
  | write
  | serveFile
  | get
  | postForm
  | setHeader
  | getHeader
  | getRemoteAddress
  deriving DecidableEq, Repr

namespace HttpFunction

variable {F : Type}

def named : List (String × HttpFunction) :=
  [("redirect", redirect), ("render", render), ("write", write),
    ("serveFile", serveFile), ("get", get), ("postForm", postForm),
    ("setHeader", setHeader), ("getHeader", getHeader),
    ("getRemoteAddress", getRemoteAddress)]

/-- The status of a redirect that names none. -/
def redirectStatus : Nat := 302

/-- The header that a rendered page has. -/
def contentType : String := "Content-Type"

/-- Its value, unless the script has set one. -/
def htmlContentType : String := "text/html; charset=utf-8"

/-- Adds bytes to the body. -/
def appendBody (bytes : Bytes) (r : Response) : Response :=
  { r with body := r.body ++ bytes }

/-- Adds the header of a rendered page, unless it is there. -/
def addContentType (r : Response) : Response :=
  if r.headers.contains contentType then r
  else { r with headers := r.headers.insert contentType htmlContentType }

/-- Changes the response. -/
def respond (f : Response → Response) : Action F (List Value) := do
  Action.modifyExchange (Exchange.mapResponse f)
  pure []

/-- One text of a map, or all of them. -/
def textOf (texts : KeyMap String) (key : Option String) :
    Action F (List Value) :=
  match key with
  | some k => pure [.ofText? (texts.get? k)]
  | none => do pure [← Action.ofJson (Request.textsObject texts)]

def run : HttpFunction → List Value → Action F (List Value)
  | redirect, args => do
    let location ← Action.argument Argument.text args 0
    let status ← Action.argument
      (Argument.optional (Argument.integer Argument.word16)) args 1
    respond fun r =>
      { r with
        status := (status.map Int.toNat).getD redirectStatus
        redirect := some location }
  | render, args => do
    let template ← Action.argument Argument.text args 0
    let data ← Action.toJson (Argument.nth args 1)
    let page ← Action.serve (.renderPage template data)
    respond fun r => appendBody (Utf8.ofString page) (addContentType r)
  | write, args => do
    let bytes ← Action.argument Argument.bytes args 0
    respond (appendBody bytes)
  | serveFile, args => do
    let path ← Action.argument Argument.text args 0
    respond fun r => { r with file := some path }
  | get, args => do
    let key ← Action.argument (Argument.optional Argument.text) args 0
    textOf (← Action.exchange).request.query key
  | postForm, args => do
    let key ← Action.argument (Argument.optional Argument.text) args 0
    textOf (← Action.exchange).request.form key
  | setHeader, args => do
    let name ← Action.argument Argument.text args 0
    let value ← Action.argument Argument.text args 1
    respond fun r => { r with headers := r.headers.insert name value }
  | getHeader, args => do
    let name ← Action.argument Argument.text args 0
    pure [.ofText? ((← Action.exchange).request.header? name)]
  | getRemoteAddress, _ => do
    pure [.ofText? (← Action.exchange).request.remoteAddr]

end HttpFunction

end ScriptHost
