/-
ScriptHost.Url.Provisioning — addresses that hand a secret to an
authenticator.

The label of the account is the path of the address: it is cut at slashes,
segments of one or two dots are resolved, and what may not stand in a path
is escaped. The secret and the issuer follow as form data.
-/
import ScriptHost.Url.Form

namespace ScriptHost.Url

/-- Characters that an address never contains. -/
def isDropped (c : Char) : Bool := c = '\t' || c = '\n' || c = '\r'

/-- Must the character be escaped in a path? -/
def isEscapedInPath (c : Char) : Bool :=
  c.toNat < 0x21 || 0x7E < c.toNat || c = '"' || c = '<' || c = '>'
    || c = '\x60' || c = '#' || c = '?' || c = '\x7b' || c = '\x7d'

/-- A character in a path. -/
def pathChars (c : Char) : List Char :=
  if isEscapedInPath c then (Utf8.encodeChar c).flatMap Percent.escape else [c]

/-- The ways to write a dot in a segment. -/
def dotForms : List (List Char) :=
  [['.'], ['%', '2', 'e'], ['%', '2', 'E']]

/-- Does the segment mean the directory itself? -/
def isSingleDot (segment : List Char) : Bool := dotForms.contains segment

/-- Does the segment mean the directory above? -/
def isDoubleDot (segment : List Char) : Bool :=
  dotForms.any fun a => dotForms.any fun b => segment = a ++ b

/-- A letter with a colon or bar, and perhaps more behind a backslash: the
name of a drive, which is never left. -/
def isDrive : List Char → Bool
  | a :: b :: rest =>
    a.isAlpha && (b = ':' || b = '|')
      && (rest.isEmpty || rest.head? = some '\\')
  | _ => false

/-- The segments without the last one, unless that is a drive. -/
def up : List (List Char) → List (List Char)
  | last :: rest => if isDrive last then last :: rest else rest
  | [] => []

/-- Resolves segments, given those already resolved, last first. A segment
of dots at the end leaves an empty one. -/
def resolve (done : List (List Char)) :
    List (List Char) → List (List Char)
  | [] => done.reverse
  | segment :: rest =>
    let leave (ss : List (List Char)) := if rest.isEmpty then [] :: ss else ss
    if isDoubleDot segment then resolve (leave (up done)) rest
    else if isSingleDot segment then resolve (leave done) rest
    else resolve (segment :: done) rest

/-- Cuts characters at slashes. -/
def segments (cs : List Char) : List (List Char) := cs.splitOn '/'

/-- A label as a path. A label that begins with a mark of a later part of an
address gives no path at all. -/
def labelPath (label : String) : List Char :=
  match label.toList.filter fun c => !isDropped c with
  | [] => []
  | c :: rest =>
    if c = '?' ∨ c = '#' then []
    else
      let body := if c = '/' then rest else c :: rest
      (resolve [] ((segments body).map (·.flatMap pathChars))).flatMap
        fun segment => '/' :: segment

/-- The address for a secret. The label is the account, with the issuer in
front if there is one. -/
def provisioning (secret account : String) (issuer : Option String) :
    String :=
  let label := match issuer with
    | some i => i ++ ":" ++ account
    | none => account
  let tail := match issuer with
    | some i => "&issuer=" ++ Form.encode i
    | none => ""
  "otpauth://totp" ++ String.ofList (labelPath label) ++ "?secret="
    ++ Form.encode secret ++ tail

end ScriptHost.Url
