/-
ScriptHost.Proofs.Capability.Xml — an element as XML text, and back.

What `xml.marshal` writes for an element, `xml.unmarshal` reads as the same
element, wherever the text is taken.
-/
import ScriptHost.Capability.Xml
import ScriptHost.Proofs.Capability.XmlValue
import ScriptHost.Proofs.Script.Action
import ScriptHost.Proofs.Xml.Document

namespace ScriptHost.XmlFunction

variable {F : Type}

open ScriptHost.Action

/-- An element that a value gives is written. -/
theorem run_marshal {args : List Value} {w : World F} {node : XmlNode}
    (h : (w.interpreter.heap.unfold (Argument.nth args 0)).asNode = .ok node) :
    (marshal.run args : Action F (List Value)).run.run w
      = (match node.write? with
        | some chars => .ok [.ofText (String.ofList chars)]
        | none => .error (.raised (.complaint .xmlNameless)), w) := by
  have hnode : (nodeOf (F := F) (Argument.nth args 0)).run.run w
      = (.ok node, w) := by
    rw [nodeOf, run_bind, run_interpreter]
    dsimp only
    rw [h]
    rfl
  rw [run, run_bind, hnode]
  dsimp only
  cases node.write? <;> rfl

/-- A text that reads as an element is taken for the value of it. -/
theorem run_unmarshal {text : String} {node : XmlNode}
    (h : Xml.read text = .ok node) (w : World F) :
    (unmarshal.run [.ofText text] : Action F (List Value)).run.run w
      = (.ok [(w.interpreter.heap.ofJson node.toJson).1],
        { w with
          interpreter.heap := (w.interpreter.heap.ofJson node.toJson).2 }) := by
  rw [run, run_bind, run_argument_text]
  dsimp only
  rw [XmlFunction.read, h]
  rfl

/-- **An element as XML text and back.** If every name in an element is made
of letters, digits, `_`, `-`, `.` and `:`, and no text in it begins or ends
with a blank, the element is written as a text that reads as the same
element, whatever else stands in its texts and attributes. `xml.marshal`
returns this text for every value that gives the element, and changes
nothing. `xml.unmarshal` of the text returns the value of the element, in any
world. This value gives the element again, if lists can be as long as those
of its children. -/
theorem unmarshal_marshal_node {node : XmlNode} (plain : node.Plain) :
    ∃ text : String, node.write? = some text.toList
      ∧ Xml.read text = .ok node
      ∧ (∀ (w : World F) (args : List Value),
        (w.interpreter.heap.unfold (Argument.nth args 0)).asNode = .ok node →
        (marshal.run args : Action F (List Value)).run.run w
          = (.ok [.ofText text], w))
      ∧ ∀ w : World F,
        let (v, h) := w.interpreter.heap.ofJson node.toJson
        (unmarshal.run [.ofText text] : Action F (List Value)).run.run w
            = (.ok [v], { w with interpreter.heap := h })
          ∧ (node.toJson.Proper → (h.unfold v).asNode = .ok node) := by
  obtain ⟨text, hwrite, hread⟩ := Xml.read_written plain
  refine ⟨text, hwrite, hread, fun w args hnode => ?_, fun w =>
    ⟨run_unmarshal hread w, fun proper =>
      (Heap.gives_node proper w.interpreter.heap).2.unfold⟩⟩
  rw [run_marshal hnode, hwrite]
  dsimp only
  rw [String.ofList_toList]

/-- An element with children, one of them in another, whose texts and
attributes hold every mark. -/
def notice : XmlNode where
  name := "motd"
  attrs := KeyMap.ofList [("xml:lang", "'en'"), ("a.1", " <\"&\n\">")]
  children := [{ name := "br" },
    { name := "p-é", text := "]]>", children := [{ name := "_" }] }]
  text := "1 < 2 &lt; 3"

theorem unmarshal_marshal_notice :
    let (v, h) := ({} : Heap).ofJson notice.toJson
    let w : World Empty := ⟨{ Interpreter.fresh none with heap := h }, {}⟩
    let text := "<motd a.1=\" &lt;&quot;&amp;\n&quot;&gt;\" "
      ++ "xml:lang=\"&apos;en&apos;\">1 &lt; 2 &amp;lt; 3<br/>"
      ++ "<p-é>]]&gt;<_/></p-é></motd>"
    notice.Plain
      ∧ (marshal.run [v] : Action Empty (List Value)).run.run w
        = (.ok [.ofText text], w)
      ∧ Xml.read text = .ok notice := by
  have leaf : ∀ name : String, Xml.IsName name.toList →
      ({ name := name } : XmlNode).Plain :=
    fun name isName => .intro isName nofun nofun (by decide)
  have plain : notice.Plain := by
    refine .intro (by decide +kernel) (by decide +kernel) ?_ (by decide)
    simp only [List.forall_mem_cons]
    refine ⟨leaf _ (by decide +kernel), ?_, nofun⟩
    refine .intro (by decide +kernel) nofun ?_ (by decide)
    simp only [List.forall_mem_cons]
    exact ⟨leaf _ (by decide +kernel), nofun⟩
  have proper : notice.toJson.Proper := by
    have childless : ∀ name, ({ name := name } : XmlNode).toJson.Proper :=
      fun name => XmlNode.proper_toJson _ _ _ (by decide) nofun
    refine XmlNode.proper_toJson _ _ _ (by decide) ?_
    simp only [List.forall_mem_cons]
    refine ⟨childless _, XmlNode.proper_toJson _ _ _ (by decide) ?_, nofun⟩
    simp only [List.forall_mem_cons]
    exact ⟨childless _, nofun⟩
  have hgives := (Heap.gives_node proper {}).2.unfold
  obtain ⟨text, hwrite, hread, marshals, -⟩ :=
    unmarshal_marshal_node (F := Empty) plain
  have htext : text = "<motd a.1=\" &lt;&quot;&amp;\n&quot;&gt;\" "
      ++ "xml:lang=\"&apos;en&apos;\">1 &lt; 2 &amp;lt; 3<br/>"
      ++ "<p-é>]]&gt;<_/></p-é></motd>" := by
    rw [← String.toList_inj, ← Option.some_inj, ← hwrite]
    decide +kernel
  subst htext
  exact ⟨plain, marshals _ _ hgives, hread⟩

end ScriptHost.XmlFunction
