/-
ScriptHost.Xml.Node — XML elements, and how they are written.

An element has a name, attributes by name, child elements, and the text that
stands directly in it. The text is written in front of the children. An
element without text and children is one tag.
-/
import ScriptHost.Data.KeyMap
import ScriptHost.Json.Basic
import ScriptHost.Xml.Escape

namespace ScriptHost

/-- An XML element. -/
structure XmlNode where
  name : String := ""
  attrs : KeyMap String := ∅
  children : List XmlNode := []
  text : String := ""

namespace XmlNode

/-- An attribute with a blank in front. -/
def attrChars (attr : String × String) : List Char :=
  ' ' :: (attr.1.toList ++ '=' :: '"' :: Xml.escape attr.2.toList ++ ['"'])

/-- The name with the attributes. -/
def headChars (name : String) (attrs : KeyMap String) : List Char :=
  name.toList ++ attrs.entries.flatMap attrChars

mutual
/-- The characters of an element, none if it or an element in it has no
name. -/
def write? : XmlNode → Option (List Char)
  | ⟨name, attrs, children, text⟩ =>
    if name = "" then none
    else
      let head := headChars name attrs
      if children.isEmpty && text = "" then some ('<' :: head ++ ['/', '>'])
      else (writeAll? children).map fun inner =>
        '<' :: head ++ '>' :: Xml.escape text.toList ++ inner
          ++ '<' :: '/' :: name.toList ++ ['>']

/-- The characters of elements in a row. -/
def writeAll? : List XmlNode → Option (List Char)
  | [] => some []
  | node :: rest => do
    let first ← write? node
    let others ← writeAll? rest
    pure (first ++ others)
end

mutual
/-- The element as data. -/
def toJson : XmlNode → Json
  | ⟨name, attrs, children, text⟩ =>
    .ofPairs [("name", .str name),
      ("attrs", .obj (attrs.entries.map fun (k, v) => (k, .str v))),
      ("children", .arr (toJsonAll children)), ("text", .str text)]

/-- Elements in a row as data. -/
def toJsonAll : List XmlNode → List Json
  | [] => []
  | node :: rest => toJson node :: toJsonAll rest
end

end XmlNode

end ScriptHost
