/-
ScriptHost.Web.Exchange — request and response of one run.

While a script runs, its request and the response that it builds belong
together. The session moves to the response side at the start, so what a
script does to it goes back to the caller.
-/
import ScriptHost.Web.Request
import ScriptHost.Web.Response

namespace ScriptHost

/-- A request and the response to it so far. -/
structure Exchange where
  request : Request
  response : Response
  deriving Inhabited

namespace Exchange

/-- The exchange at the start of a run. -/
def start (request : Request) : Exchange :=
  { request := { request with session := {} }
    response := { session := request.session } }

/-- The session of the run. -/
def session (ex : Exchange) : Session := ex.response.session

/-- Changes the response. -/
def mapResponse (f : Response → Response) (ex : Exchange) : Exchange :=
  { ex with response := f ex.response }

/-- Changes the session. -/
def mapSession (f : Session → Session) (ex : Exchange) : Exchange :=
  ex.mapResponse fun r => { r with session := f r.session }

end Exchange

end ScriptHost
