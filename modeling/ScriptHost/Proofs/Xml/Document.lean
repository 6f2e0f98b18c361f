/-
ScriptHost.Proofs.Xml.Document — a written element reads back.

An element is written as text that falls into its events, whatever stands
behind it, if the names all the way down are such that its tags can be read
(`written`). The reader trims the texts among these events, and what it is
left with stands for the element with all texts trimmed (`element`).
`read_written_trimmed` puts the two together.

In a `Plain` element the names are made of letters, digits and four signs, and
no text has a blank at an end. So it reads back as it was (`read_written`).
-/
import ScriptHost.Proofs.Xml.Segment
import ScriptHost.Proofs.Xml.Tag

namespace ScriptHost

open Xml

/-! ## Elements all the way down -/

/-- Every name in the element is made of letters, digits and the four signs,
and no text in it has a blank at an end. -/
inductive XmlNode.Plain : XmlNode → Prop
  | intro {name : String} {attrs : KeyMap String} {children : List XmlNode}
      {text : String} (name_ok : IsName name.toList)
      (attrs_ok : ∀ attr ∈ attrs.entries, IsName attr.1.toList)
      (children_ok : ∀ child ∈ children, Plain child)
      (text_ok : Bare text.toList) : Plain ⟨name, attrs, children, text⟩

namespace XmlNode

/-- The property holds of the element and of every element in it. -/
inductive All (P : XmlNode → Prop) : XmlNode → Prop
  | intro {name : String} {attrs : KeyMap String} {children : List XmlNode}
      {text : String} (self : P ⟨name, attrs, children, text⟩)
      (below : ∀ child ∈ children, All P child) :
      All P ⟨name, attrs, children, text⟩

/-- There is something between the tags of the element. -/
def Filled (node : XmlNode) : Prop := node.children ≠ [] ∨ node.text ≠ ""

/-- The tags of the element can be read. If there are two, this takes more:
the name leaves no quotation open by itself, and does not end the first tag
like an empty one. -/
structure Rereadable (node : XmlNode) : Prop where
  tag : Legible node.name node.attrs
  closed : node.Filled → quoteAfter? none node.name.toList = some none
  slash : node.Filled → node.attrs.entries = [] →
    node.name.toList.getLast? ≠ some '/'

mutual
/-- The element with every text in it trimmed. -/
def trimmed : XmlNode → XmlNode
  | ⟨name, attrs, children, text⟩ =>
    ⟨name, attrs, trimmedAll children, String.ofList (trimBoth text.toList)⟩

/-- Elements in a row with every text in them trimmed. -/
def trimmedAll : List XmlNode → List XmlNode
  | [] => []
  | node :: rest => trimmed node :: trimmedAll rest
end

theorem Plain.rereadable {node : XmlNode} (plain : node.Plain) :
    node.All Rereadable := by
  induction plain with
  | @intro name attrs children text isName names _ _ ih =>
    refine .intro ⟨legible_of_isName isName names, fun _ => ?_, fun _ _ => ?_⟩
      ih
    · exact isQuote_none.unmarked isName.not_isTagMark
    · exact fun hlast => isName.ne (List.mem_of_getLast? hlast) '/' rfl rfl

/-- Elements that are trimmed already stay as they are, in a row too. -/
theorem trimmedAll_eq {nodes : List XmlNode}
    (h : ∀ node ∈ nodes, node.trimmed = node) : trimmedAll nodes = nodes := by
  induction nodes with
  | nil => rfl
  | cons node rest ih =>
    obtain ⟨hnode, hrest⟩ := List.forall_mem_cons.mp h
    rw [trimmedAll, hnode, ih hrest]

/-- Texts without blanks at their ends stay as they are. -/
theorem trimmed_eq {node : XmlNode}
    (bare : node.All fun node => Bare node.text.toList) :
    node.trimmed = node := by
  induction bare with
  | @intro name attrs children text self _ ih =>
    have htext : trimBoth text.toList = text.toList := Bare.trimBoth self
    rw [trimmed, trimmedAll_eq ih, htext, String.ofList_toList]

theorem Plain.bare {node : XmlNode} (plain : node.Plain) :
    node.All fun node => Bare node.text.toList := by
  induction plain with
  | intro _ _ _ bare ih => exact .intro bare ih

end XmlNode

/-! ## The events of an element -/

namespace Xml

/-- Text as an event, if there is any. -/
def textEvents (text : String) : List Event :=
  if text = "" then [] else [.text (escape text.toList)]

end Xml

namespace XmlNode

mutual
/-- The events that an element is written as. -/
def events : XmlNode → List Xml.Event
  | ⟨name, attrs, children, text⟩ =>
    if children.isEmpty && text = "" then
      [.empty name.toList (attrsChars attrs)]
    else .start name.toList (attrsChars attrs)
      :: (textEvents text ++ eventsAll children ++ [.close])

/-- The events of elements in a row. -/
def eventsAll : List XmlNode → List Xml.Event
  | [] => []
  | node :: rest => events node ++ eventsAll rest
end

theorem filled_iff {name : String} {attrs : KeyMap String}
    {children : List XmlNode} {text : String} :
    (⟨name, attrs, children, text⟩ : XmlNode).Filled
      ↔ ¬(children.isEmpty && text = "") = true := by
  rw [Filled, Bool.and_eq_true, List.isEmpty_iff, decide_eq_true_iff,
    not_and_or]

end XmlNode

/-! ## From the element to its events -/

namespace Xml

/-- The characters fall into the events, whatever stands behind them. -/
def Yields (cs : List Char) (events : List Event) : Prop :=
  ∀ (opened : List (List Char)) (rest : List Char) (later : List Event),
    Cut opened rest later → Cut opened (cs ++ rest) (events ++ later)

theorem yields_nil : Yields [] [] := fun _ _ _ hlater => hlater

theorem Yields.append {cs ds : List Char} {first others : List Event}
    (hc : Yields cs first) (hd : Yields ds others) :
    Yields (cs ++ ds) (first ++ others) := by
  intro opened rest later hlater
  rw [List.append_assoc, List.append_assoc]
  exact hc opened _ _ (hd opened rest later hlater)

/-- Text in front of markup, if there is any. -/
theorem cut_text {opened : List (List Char)} {rest : List Char}
    {later : List Event} (text : String)
    (stops : ∀ c ∈ rest.head?, isText c = false)
    (hlater : Cut opened rest later) :
    Cut opened (escape text.toList ++ rest) (textEvents text ++ later) := by
  rw [textEvents]
  split
  · next h => rw [h]; exact hlater
  · next h =>
    refine .text (escape_ne_nil (mt String.toList_eq_nil_iff.mp h))
      (fun c hc => ?_) stops hlater
    simp [isText, (ne_of_mem_escape hc).1]

section Element

variable {name : String} {attrs : KeyMap String}

/-- An element that is one tag. -/
theorem yields_empty (legible : Legible name attrs) :
    Yields ('<' :: (XmlNode.headChars name attrs ++ ['/', '>']))
      [.empty name.toList (attrsChars attrs)] := by
  intro opened rest later hlater
  have hcut := Cut.markup (markup?_empty legible opened rest) hlater
  rw [List.cons_append, List.append_assoc]
  exact hcut

/-- An element with text and children between two tags. -/
theorem yields_paired (legible : Legible name attrs)
    (closed : quoteAfter? none name.toList = some none)
    (slash : attrs.entries = [] → name.toList.getLast? ≠ some '/')
    (text : String) {inner : List Char} {events : List Event}
    (h : Yields inner events)
    (hfront : inner = [] ∨ inner.head? = some '<') :
    Yields ('<' :: (XmlNode.headChars name attrs ++ '>'
          :: (escape text.toList ++ (inner
            ++ '<' :: '/' :: (name.toList ++ ['>'])))))
      (.start name.toList (attrsChars attrs)
        :: (textEvents text ++ events ++ [.close])) := by
  intro opened rest later hlater
  have hclose : Cut (name.toList :: opened)
      ('<' :: '/' :: (name.toList ++ '>' :: rest)) (.close :: later) :=
    .markup (markup?_close legible.tagName closed opened rest) hlater
  have stops :
      ∀ c ∈ (inner ++ '<' :: '/' :: (name.toList ++ '>' :: rest)).head?,
        isText c = false := by
    rcases hfront with rfl | hhead
    · rintro c ⟨⟩
      rfl
    · rw [List.head?_append, hhead]
      rintro c ⟨⟩
      rfl
  have htext := cut_text text stops (h _ _ _ hclose)
  have hstart := Cut.markup (markup?_start legible slash opened _) htext
  simpa only [List.cons_append, List.append_assoc, List.nil_append] using
    hstart

end Element

end Xml

namespace XmlNode

/-- The element is written as an opening mark and more, and this falls into
its events. -/
def Written (node : XmlNode) : Prop :=
  ∃ cs, node.write? = some ('<' :: cs) ∧ Yields ('<' :: cs) node.events

/-- Elements in a row, each of them written. -/
theorem writeAll?_written {nodes : List XmlNode}
    (h : ∀ node ∈ nodes, Written node) :
    ∃ cs, writeAll? nodes = some cs ∧ Yields cs (eventsAll nodes)
      ∧ (cs = [] ∨ cs.head? = some '<') := by
  induction nodes with
  | nil => exact ⟨[], rfl, yields_nil, .inl rfl⟩
  | cons node rest ih =>
    obtain ⟨⟨first, hfirst, yfirst⟩, hrest⟩ := List.forall_mem_cons.mp h
    obtain ⟨others, hothers, yothers, -⟩ := ih hrest
    refine ⟨'<' :: first ++ others, ?_, yfirst.append yothers, .inr rfl⟩
    rw [writeAll?, hfirst, hothers]
    rfl

/-- **An element whose tags can be read is written, and falls into its
events.** -/
theorem written {node : XmlNode} (rereadable : node.All Rereadable) :
    node.Written := by
  induction rereadable with
  | @intro name attrs children text self _ ih =>
    obtain ⟨legible, closed, slash⟩ := self
    have hname : name ≠ "" := by
      rintro rfl
      exact legible.tagName.ne rfl
    obtain ⟨inner, hinner, yields, hfront⟩ := writeAll?_written ih
    rw [Written, write?, if_neg hname, events]
    split
    · exact ⟨_, rfl, yields_empty legible⟩
    · next h =>
      have filled : (⟨name, attrs, children, text⟩ : XmlNode).Filled :=
        filled_iff.mpr h
      refine ⟨_, ?_, yields_paired legible (closed filled) (slash filled) text
        yields hfront⟩
      rw [hinner]
      simp only [Option.map_some, List.cons_append, List.append_assoc]

end XmlNode

/-! ## From the events to the element -/

namespace Xml

open XmlNode

/-- The text that is passed on is trimmed. -/
theorem content_textEvents {events : List Event} {children : List XmlNode}
    (text : String) (h : Content events children []) :
    Content ((textEvents text).filterMap Event.trimmed? ++ events) children
      (trimBoth text.toList) := by
  by_cases blank : trimBoth text.toList = []
  · have hnone : (textEvents text).filterMap Event.trimmed? = [] := by
      rw [textEvents]
      split
      · rfl
      · refine List.filterMap_cons_none ?_
        rw [Event.trimmed?, trimBoth_escape, blank]
        rfl
    rw [hnone, blank]
    exact h
  · have hsome : (textEvents text).filterMap Event.trimmed?
        = [.text (escape (trimBoth text.toList))] := by
      have hne : text ≠ "" := by rintro rfl; exact blank rfl
      have hpiece : (Event.text (escape text.toList)).trimmed?
          = some (.text (escape (trimBoth text.toList))) := by
        rw [Event.trimmed?, trimBoth_escape, if_neg (escape_ne_nil blank)]
      rw [textEvents, if_neg hne, List.filterMap_cons_some hpiece]
      rfl
    rw [hsome]
    have hcontent := Content.text (unescape?_escape (trimBoth text.toList)) h
    rw [List.append_nil] at hcontent
    exact hcontent

/-- The children of an element are in its content. -/
theorem content_eventsAll {nodes : List XmlNode}
    (h : ∀ node ∈ nodes,
      Element (node.events.filterMap Event.trimmed?) node.trimmed) :
    Content ((eventsAll nodes).filterMap Event.trimmed?) (trimmedAll nodes)
      [] := by
  induction nodes with
  | nil => exact .nil
  | cons node rest ih =>
    obtain ⟨hnode, hrest⟩ := List.forall_mem_cons.mp h
    rw [eventsAll, List.filterMap_append, trimmedAll]
    exact .child hnode (ih hrest)

/-- **The events of an element, trimmed, stand for it with its texts
trimmed.** -/
theorem element {node : XmlNode} (rereadable : node.All Rereadable) :
    Element (node.events.filterMap Event.trimmed?) node.trimmed := by
  induction rereadable with
  | @intro name attrs children text self _ ih =>
    have head : element? name.toList (attrsChars attrs)
        = some { name := name, attrs := attrs } := by
      rw [element?, attributes?_attrsChars self.tag.attrNames,
        String.ofList_toList]
      rfl
    rw [XmlNode.events, XmlNode.trimmed]
    split
    · next h =>
      obtain ⟨hchildren, htext⟩ := (Bool.and_eq_true _ _).mp h
      obtain rfl := List.isEmpty_iff.mp hchildren
      obtain rfl := of_decide_eq_true htext
      exact .empty head
    · have content := content_textEvents text (content_eventsAll ih)
      rw [← List.filterMap_append] at content
      have hrow : (Event.start name.toList (attrsChars attrs)
            :: (textEvents text ++ eventsAll children ++ [.close])).filterMap
              Event.trimmed?
          = .start name.toList (attrsChars attrs)
            :: ((textEvents text ++ eventsAll children).filterMap
              Event.trimmed? ++ [.close]) := by
        rw [List.filterMap_cons, List.filterMap_append]
        rfl
      rw [hrow]
      exact .paired head content

/-- **What is written reads as the element with its texts trimmed.** -/
theorem read_written_trimmed {node : XmlNode}
    (rereadable : node.All Rereadable) :
    ∃ text : String, node.write? = some text.toList
      ∧ read text = .ok node.trimmed := by
  obtain ⟨cs, hwrite, yields⟩ := written rereadable
  refine ⟨String.ofList ('<' :: cs), by rw [String.toList_ofList, hwrite], ?_⟩
  have hmark : skipMark ('<' :: cs) = '<' :: cs := by
    simp [skipMark]
  have cut : Cut [] ('<' :: cs) node.events := by
    have hcut := yields [] [] [] .nil
    rwa [List.append_nil, List.append_nil] at hcut
  have depicts : Depicts (node.events.filterMap Event.trimmed?)
      node.trimmed := by
    have hdepicts := @Depicts.intro [] _ [] _ rfl (element rereadable) rfl
    rwa [List.nil_append, List.append_nil] at hdepicts
  rw [read, String.toList_ofList, hmark, ofEvents_eq_ok_iff, Xml.events,
    eventsFrom_of_cut cut (Nat.lt_succ_self _)]
  exact depicts

/-- **A plain element that is written reads back.** -/
theorem read_written {node : XmlNode} (plain : node.Plain) :
    ∃ text : String, node.write? = some text.toList
      ∧ read text = .ok node := by
  have hread := read_written_trimmed plain.rereadable
  rwa [trimmed_eq plain.bare] at hread

end Xml

end ScriptHost
