/-
ScriptHost.Url.WebAddress — is a text the address of a web page?

Blanks and control characters at both ends do not count, nor do tabs and
line ends anywhere. Then comes the scheme `http` or `https`, a colon, any
number of slashes, and the authority: an optional part up to the last `@`,
the host, and an optional port. All behind the authority is free.
-/
import ScriptHost.Url.HostName

namespace ScriptHost.WebAddress

/-- Characters that do not count at the ends. -/
def isEdge (c : Char) : Bool := c.toNat ≤ 0x20

/-- Characters that do not count at all. -/
def isDropped (c : Char) : Bool := c = '\t' || c = '\n' || c = '\r'

/-- The characters that count. -/
def clean (cs : List Char) : List Char :=
  ((cs.dropWhile isEdge).reverse.dropWhile isEdge).reverse.filter
    fun c => !isDropped c

/-- The schemes of the web. -/
def schemes : List (List Char) := ["http".toList, "https".toList]

/-- A slash in either direction. -/
def isSlash (c : Char) : Bool := c = '/' || c = '\\'

/-- Does the character end the authority? -/
def endsAuthority (c : Char) : Bool := isSlash c || c = '?' || c = '#'

/-- What follows the last `@`. -/
def dropUser (cs : List Char) : List Char :=
  (cs.reverse.takeWhile (· ≠ '@')).reverse

/-- Cuts the host off at the colon of the port; colons in brackets do not
count. -/
def spanHost (inBrackets : Bool) : List Char → List Char × List Char
  | [] => ([], [])
  | c :: rest =>
    if c = ':' && !inBrackets then ([], c :: rest)
    else
      let inside := if c = '[' then true else if c = ']' then false
        else inBrackets
      let (host, port) := spanHost inside rest
      (c :: host, port)

/-- The largest port. -/
def largestPort : Nat := 65535

/-- Is it nothing, or a colon with a port, which may be missing? -/
def isPort : List Char → Bool
  | [] => true
  | _ :: digits => digits.all Char.isDigit && ofDigits 10 digits ≤ largestPort

/-- Is it an authority? -/
def isAuthority (cs : List Char) : Bool :=
  let (host, port) := spanHost false (dropUser cs)
  !host.isEmpty && HostName.isValid host && isPort port

/-- Is the text the address of a web page? -/
def isValid (s : String) : Bool :=
  let cs := clean s.toList
  let scheme := cs.takeWhile (· ≠ ':')
  match cs.dropWhile (· ≠ ':') with
  | _ :: behind =>
    schemes.contains (scheme.map Char.toLower)
      && isAuthority ((behind.dropWhile isSlash).takeWhile
        fun c => !endsAuthority c)
  | [] => false

end ScriptHost.WebAddress
