/-
ScriptHost.Web.Response — what a script has produced for its caller.

As data, the body is a text if its bytes are UTF-8 and an array of bytes
otherwise; both forms are read back.
-/
import ScriptHost.Web.Session
import ScriptHost.Text.Utf8

namespace ScriptHost

/-- A response. -/
structure Response where
  status : Nat := 200
  headers : KeyMap String := ∅
  body : Bytes := []
  redirect : Option String := none
  file : Option String := none
  session : Session := {}
  deriving Inhabited

namespace Response

/-- The body as text, with the replacement character for what is none. -/
def bodyText (r : Response) : String := Utf8.lossy r.body

/-- A body as data. -/
def bodyJson (body : Bytes) : Json :=
  match Utf8.toString? body with
  | .ok text => .str text
  | .error _ => .arr (body.map fun b => .int b.toNat)

/-- The response as data. -/
def toJson (r : Response) : Json :=
  .ofPairs [("status", .int r.status),
    ("headers", .obj (r.headers.entries.map fun (k, v) => (k, .str v))),
    ("body", bodyJson r.body), ("redirect", .ofOption .str r.redirect),
    ("file", .ofOption .str r.file), ("session", r.session.toJson)]

/-- A body from data. -/
def decodeBody : Json.Decoder Bytes
  | .str text => some (Utf8.ofString text)
  | .arr items => items.mapM fun j =>
    (Json.Decode.natUpTo 255 j).map UInt8.ofNat
  | _ => none

/-- Is the record given by field names? -/
def isNamed : Json → Bool := Json.isObject

/-- A text or null, or nothing at all in a record by field names. -/
def optionalText (named : Bool) : Option Json → Option (Option String)
  | some j => Json.Decode.optional Json.Decode.text j
  | none => if named then some none else none

/-- A response from data. -/
def decode : Json.Decoder Response := fun j => do
  match ← Json.Decode.slots true
    ["status", "headers", "body", "redirect", "file", "session"] j with
  | [status, headers, body, redirect, file, session] =>
    pure {
      status := ← Json.Decode.required (Json.Decode.natUpTo 65535) status
      headers := ← Json.Decode.required
        (Json.Decode.map Json.Decode.text) headers
      body := ← Json.Decode.required decodeBody body
      redirect := ← optionalText (isNamed j) redirect
      file := ← optionalText (isNamed j) file
      session := ← Json.Decode.required Session.decode session }
  | _ => none

end Response

end ScriptHost
