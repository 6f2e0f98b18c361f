/-
ScriptHost.Xml.Tree — XML elements from a row of events.

An open element collects its children and its text until it is closed; then
it goes to the element around it, or becomes the root. There must be exactly
one root, and every element must be closed.
-/
import ScriptHost.Xml.Event
import ScriptHost.Xml.Node

namespace ScriptHost

/-- Why a text is no document. -/
inductive XmlError where
  | malformed
  | secondRoot
  | noRoot
  | notClosed (name : String)
  deriving DecidableEq, Repr

namespace Xml

/-! ## Attributes -/

/-- Does the character end the name of an attribute? -/
def endsAttrName (c : Char) : Bool := c = '=' || isSpace c

/-- Takes an attribute off the front, behind the first character of its
name. Its value stands between two equal quotes. -/
def attribute? (first : Char) (cs : List Char) :
    Option ((List Char × List Char) × List Char) :=
  let name := first :: cs.takeWhile fun c => !endsAttrName c
  match (cs.dropWhile fun c => !endsAttrName c).dropWhile isSpace with
  | '=' :: behind =>
    match behind.dropWhile isSpace with
    | quote :: body =>
      if quote = '"' ∨ quote = '\'' then
        (cut? [quote] body).map fun (value, rest) => ((name, value), rest)
      else none
    | [] => none
  | _ => none

/-- Reads attributes, at most `fuel` of them, and adds them to those in
front. No name may come twice. -/
def attributesFrom? : Nat → KeyMap String → List Char →
    Option (KeyMap String)
  | 0, _, _ => none
  | fuel + 1, done, cs =>
    match cs.dropWhile isSpace with
    | [] => some done
    | c :: rest => do
      let ((name, raw), rest) ← attribute? c rest
      let key := String.ofList name
      if done.contains key then none
      else
        let value ← unescape? raw
        attributesFrom? fuel (done.insert key (String.ofList value)) rest

/-- The attributes of a tag. -/
def attributes? (cs : List Char) : Option (KeyMap String) :=
  attributesFrom? (cs.length + 1) ∅ cs

/-- An element with nothing in it yet. -/
def element? (name attrs : List Char) : Option XmlNode :=
  (attributes? attrs).map fun map =>
    { name := String.ofList name, attrs := map }

/-! ## The tree -/

/-- Elements that are still open, the innermost first, and the root. -/
structure Builder where
  opened : List XmlNode := []
  root : Option XmlNode := none

namespace Builder

/-- Puts a finished element where it belongs. -/
def attach (b : Builder) (node : XmlNode) : Except XmlError Builder :=
  match b.opened, b.root with
  | parent :: outer, _ =>
    .ok { b with opened :=
      { parent with children := parent.children ++ [node] } :: outer }
  | [], none => .ok { b with root := some node }
  | [], some _ => .error .secondRoot

/-- Adds text to the innermost element. -/
def addText (b : Builder) (cs : List Char) : Builder :=
  match b.opened with
  | node :: outer =>
    { b with opened :=
      { node with text := node.text ++ String.ofList cs } :: outer }
  | [] => b

/-- Takes an event in. Text outside of the root is left out unread. -/
def step (b : Builder) : Event → Except XmlError Builder
  | .start name attrs =>
    match element? name attrs with
    | some node => .ok { b with opened := node :: b.opened }
    | none => .error .malformed
  | .empty name attrs =>
    match element? name attrs with
    | some node => b.attach node
    | none => .error .malformed
  | .close =>
    match b.opened with
    | node :: outer => { b with opened := outer }.attach node
    | [] => .error .malformed
  | .text raw =>
    if b.opened.isEmpty then .ok b
    else match unescape? raw with
      | some cs => .ok (b.addText cs)
      | none => .error .malformed
  | .cdata cs => .ok (b.addText cs)
  | .other => .ok b
  | .malformed => .error .malformed

/-- The root, once all events are in. -/
def finish (b : Builder) : Except XmlError XmlNode :=
  match b.opened, b.root with
  | node :: _, _ => .error (.notClosed node.name)
  | [], some root => .ok root
  | [], none => .error .noRoot

end Builder

/-- The root element of a row of events. -/
def ofEvents (events : List Event) : Except XmlError XmlNode := do
  let b ← events.foldlM Builder.step {}
  b.finish

/-- Leaves out the mark that may stand at the start of a document. -/
def skipMark : List Char → List Char
  | '\uFEFF' :: rest => rest
  | cs => cs

/-- Reads a document. -/
def read (document : String) : Except XmlError XmlNode :=
  ofEvents (events (skipMark document.toList))

end Xml

end ScriptHost
