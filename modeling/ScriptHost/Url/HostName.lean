/-
ScriptHost.Url.HostName — the texts that name a host.

A host is an address of groups in brackets, an address of numbers, or a
name. Escapes in a name are resolved, and each character is replaced by what
it means in a name (`HostName.normalize`). The labels between the dots may
stand for others in letters of ASCII (`decodeLabel?`). No label may begin
with a mark, a joiner must stand where a script needs one, and if any label
has a character that runs to the left, each one must keep to one direction.
-/
import ScriptHost.Text.ComposedForm
import ScriptHost.Text.Joining
import ScriptHost.Text.Mark
import ScriptHost.Url.Form
import ScriptHost.Url.IpAddress
import ScriptHost.Url.NameMapping
import ScriptHost.Url.Punycode

namespace ScriptHost.HostName

/-! ## Characters -/

/-- Characters of ASCII that no name holds. -/
def isReserved (c : Char) : Bool :=
  c.toNat ≤ 0x20 || c.toNat = 0x7F || "#%/:<>?@[\\]^|".toList.contains c

/-- A name with what each character means, in its composed form. -/
def normalize (cs : List Char) : List Char := composed (cs.flatMap meaning)

/-- Is it a name that nothing has to be replaced in? -/
def isNormal (cs : List Char) : Bool :=
  cs.all (fun c => !isForbidden c && !isReserved c && meaning c = [c])
    && composed cs = cs

/-! ## Labels -/

/-- What a label for others begins with. -/
def encodedMark : List Char := "xn--".toList

/-- The longest label for others, its beginning left out. -/
def longestEncoded : Nat := 2000

/-- The longest label with other characters than those of ASCII. -/
def longestLabel : Nat := 1000

/-- The label that a label stands for: most stand for themselves. -/
def decodeLabel? (cs : List Char) : Option (List Char) :=
  if encodedMark.isPrefixOf cs then
    let code := cs.drop encodedMark.length
    if code.isEmpty || code.getLast? = some '-'
        || longestEncoded < code.length then none
    else (Punycode.decode? code).filter isNormal
  else some cs

/-- Does a label begin with a mark? -/
def beginsWithMark : List Char → Bool
  | c :: _ => isMark c
  | [] => false

/-- The sign that keeps two letters apart, and the one that joins them. -/
def nonJoiner : Char := '\u200C'
def joiner : Char := '\u200D'

/-- Does the next character that is not transparent pass a test? -/
def nextPasses (test : Char → Bool) (cs : List Char) : Bool :=
  match cs.dropWhile isTransparent with
  | c :: _ => test c
  | [] => false

/-- May a character stand between what is before it, last first, and what
is behind it? A joiner must stand behind a virama; a sign that keeps letters
apart may also stand between two that would be joined. -/
def isPlaced (before : List Char) (c : Char) (behind : List Char) : Bool :=
  if c = joiner || c = nonJoiner then
    (before.head?.map isVirama).getD false
      || (c = nonJoiner && nextPasses joinsNext before
        && nextPasses joinsPrevious behind)
  else true

/-- May all characters stand where they are, behind those given? -/
def arePlaced (before : List Char) : List Char → Bool
  | [] => true
  | c :: rest => isPlaced before c rest && arePlaced (c :: before) rest

/-- Is it a label, once it is decoded? -/
def isLabel (cs : List Char) : Bool :=
  !beginsWithMark cs && arePlaced [] cs
    && (cs.length ≤ longestLabel || cs.all fun c => c.toNat < 0x80)

/-! ## Directions -/

/-- Does a character make the direction of a name matter? -/
def runsLeft (c : Char) : Bool :=
  direction c = .rightToLeft || direction c = .arabicNumber

/-- The direction of the last character that has one of its own. -/
def lastDirection (ds : List Direction) : Option Direction :=
  ds.reverse.find? (· ≠ .mark)

/-- Does a label keep to one direction? One that begins with a letter to the
right ends with such a letter or a European digit and has nothing that runs
to the left. One that begins with a letter to the left has no letter to the
right, ends with a letter or digit, and has digits of one kind. -/
def keepsDirection (cs : List Char) : Bool :=
  let ds := cs.map direction
  match ds.head? with
  | none => true
  | some .leftToRight =>
    (lastDirection ds).any
        (fun d => d = .leftToRight || d = .europeanNumber)
      && !ds.contains .rightToLeft && !ds.contains .arabicNumber
  | some .rightToLeft =>
    (lastDirection ds).any
        (fun d => d = .rightToLeft || d = .europeanNumber
          || d = .arabicNumber)
      && !ds.contains .leftToRight
      && !(ds.contains .europeanNumber && ds.contains .arabicNumber)
  | some _ => false

/-! ## Names -/

/-- Do the labels make up a name? -/
def areLabels (labels : List (List Char)) : Bool :=
  labels.all isLabel
    && (labels.all keepsDirection || !labels.any fun cs => cs.any runsLeft)

/-- Is it a name or an address of numbers, once escapes are resolved? -/
def isPlainName (cs : List Char) : Bool :=
  let name := normalize cs
  !cs.any isForbidden && !name.isEmpty && !name.any isReserved
    && ((name.splitOn '.').mapM decodeLabel?).any areLabels
    && (!IpAddress.endsInNumber name || IpAddress.isIpv4 name)

/-- Resolves the escapes in a name. -/
def unescape (cs : List Char) : List Char :=
  (Utf8.lossy (Percent.decode (Utf8.encode cs))).toList

/-- Is it a host? -/
def isValid : List Char → Bool
  | '[' :: rest =>
    match rest.reverse with
    | ']' :: inside => IpAddress.isIpv6 inside.reverse
    | _ => false
  | cs => isPlainName (unescape cs)

end ScriptHost.HostName
