/-
ScriptHost.Web.Request — what a caller asks for.
-/
import ScriptHost.Web.Session
import ScriptHost.Text.Character

namespace ScriptHost

/-- A request as scripts see it. -/
structure Request where
  method : String
  path : String
  query : KeyMap String := ∅
  form : KeyMap String := ∅
  headers : KeyMap String := ∅
  remoteAddr : Option String := none
  session : Session := {}
  deriving Inhabited

namespace Request

/-- The request of a run that the host starts on its own. -/
def internal : Request := { method := "INTERNAL", path := "" }

/-- The value of a header, the case of its name left aside; of several
spellings the first in key order counts. -/
def header? (r : Request) (name : String) : Option String :=
  (List.find? (fun p => sameIgnoringCase p.1 name) r.headers.entries).map
    Prod.snd

/-- A map of texts as data. -/
def textsObject (m : KeyMap String) : Json :=
  .obj (m.entries.map fun (k, v) => (k, .str v))

/-- The request as data. -/
def toJson (r : Request) : Json :=
  .ofPairs [("method", .str r.method), ("path", .str r.path),
    ("query", textsObject r.query), ("form", textsObject r.form),
    ("headers", textsObject r.headers),
    ("remote_addr", .ofOption .str r.remoteAddr),
    ("session", r.session.toJson)]

/-- A request from data. Only method and path must be there. -/
def decode : Json.Decoder Request := fun j => do
  match ← Json.Decode.slots true ["method", "path", "query", "form",
    "headers", "remote_addr", "session"] j with
  | [method, path, query, form, headers, remoteAddr, session] =>
    let texts := Json.Decode.map Json.Decode.text
    pure {
      method := ← Json.Decode.required Json.Decode.text method
      path := ← Json.Decode.required Json.Decode.text path
      query := ← Json.Decode.withDefault ∅ texts query
      form := ← Json.Decode.withDefault ∅ texts form
      headers := ← Json.Decode.withDefault ∅ texts headers
      remoteAddr := ← Json.Decode.withDefault none
        (Json.Decode.optional Json.Decode.text) remoteAddr
      session := ← Json.Decode.withDefault {} Session.decode session }
  | _ => none

end Request

end ScriptHost
