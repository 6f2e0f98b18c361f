/-
ScriptHost.Proofs.Xml.Rereading — reading, writing, and reading again.

A reader's events name elements only by what it found in tags (`Spelled`), and
so does the element that is read (`Element.spelled`). Once it is written, only
two things can keep its tags from being read again: quotations that its names
leave open, and a slash at the end of a name (`XmlNode.TagsEnd`). Without them
the element is read again, with every text trimmed (`read_write_read`).
-/
import ScriptHost.Proofs.Xml.Document

namespace ScriptHost

open Xml

/-! ## Names as they are read -/

/-- The names in the tags of the element are as a reader finds them. -/
structure XmlNode.Spelled (node : XmlNode) : Prop where
  first : ∀ c ∈ node.name.toList.head?, isSign c = false
  solid : ∀ c ∈ node.name.toList, isSpace c = false
  attrNames : ∀ attr ∈ node.attrs.entries, IsAttrName attr.1.toList
  closed : node.Filled → quoteAfter? none node.name.toList = some none

namespace Xml

/-- A name in the event is as a reader finds it in a tag. A closing tag stands
for the name of the element that it closes. -/
def Event.Spelled (opened : List (List Char)) : Event → Prop
  | .start name _ | .empty name _ =>
    (∀ c ∈ name.head?, isSign c = false) ∧ ∀ c ∈ name, isSpace c = false
  | .close => ∀ name ∈ opened.head?, quoteAfter? none name = some none
  | _ => True

/-- The names in the events are as a reader finds them. -/
def Spelled : List (List Char) → List Event → Prop
  | _, [] => True
  | opened, e :: events => e.Spelled opened ∧ Spelled (e.opened opened) events

/-! ## The names that a reader finds -/

/-- The name at the front of a tag. -/
theorem spelled_splitName {inside : List Char}
    (first : ∀ c ∈ inside.head?, isSign c = false) :
    (∀ c ∈ (splitName inside).1.head?, isSign c = false)
      ∧ ∀ c ∈ (splitName inside).1, isSpace c = false := by
  refine ⟨fun c hc => first c ?_, fun c hc => ?_⟩
  · rw [← List.takeWhile_append_dropWhile (p := fun c => !isSpace c)
      (l := inside)]
    exact List.mem_head?_append_of_mem_head? hc
  · simpa using List.mem_takeWhile_imp hc

/-- The name in a closing tag leaves no quotation open. -/
theorem closed_closingName {cs inside rest : List Char}
    (tag : cutTag? none cs = some (inside, rest)) :
    quoteAfter? none (closingName inside) = some none := by
  have hinside := closed_of_cutTag? tag
  obtain ⟨back, hback, blank⟩ := exists_trimEnd inside
  rw [closingName]
  split
  · exact hinside
  · rw [hback, quoteAfter?_append] at hinside
    cases hname : quoteAfter? none (trimEnd inside) with
    | none => rw [hname] at hinside; cases hinside
    | some quote =>
      have unmarked : ∀ c ∈ back, isTagMark c = false := fun c hc => by
        have hspace := blank c hc
        simp only [isSpace, Bool.or_eq_true, decide_eq_true_eq] at hspace
        rcases hspace with ((rfl | rfl) | rfl) | rfl <;> rfl
      rw [hname, Option.bind_some,
        (isQuote_none.after hname).unmarked unmarked] at hinside
      exact hinside

/-- **Markup is spelled as a reader finds it.** -/
theorem Markup.spelled {opened : List (List Char)} {cs : List Char}
    {e : Event} {place : Place} (h : Markup opened cs e place) :
    e.Spelled opened := by
  cases h with
  | other | cdata => exact trivial
  | close tag =>
    rintro name ⟨⟩
    exact closed_closingName tag
  | empty first tag =>
    refine spelled_splitName fun c hc => first c ?_
    rw [cutTag?_eq tag, List.append_assoc]
    exact List.mem_head?_append_of_mem_head? hc
  | start first tag =>
    refine spelled_splitName fun c hc => first c ?_
    rw [cutTag?_eq tag]
    exact List.mem_head?_append_of_mem_head? hc

/-- And so is every row of a reader. -/
theorem spelled_eventsFrom (fuel : Nat) (place : Place) :
    Spelled place.opened (eventsFrom fuel place) := by
  induction fuel generalizing place with
  | zero => exact trivial
  | succ fuel ih =>
    unfold eventsFrom
    split
    · exact trivial
    · split
      · exact ⟨trivial, trivial⟩
      · next e next hmarkup =>
        have kind := markup_of_markup? hmarkup
        exact ⟨kind.spelled, kind.opened_eq ▸ ih next⟩
    · exact ⟨trivial, ih ⟨place.opened,
        (place.rest.dropWhile isSpace).dropWhile isText⟩⟩

/-- An attribute is found under a name that can be read. -/
theorem isAttrName_of_attribute? {first : Char} {cs name raw rest : List Char}
    (h : attribute? first cs = some ((name, raw), rest))
    (hfirst : isSpace first = false) : IsAttrName name := by
  have key : IsAttrName (first :: cs.takeWhile fun c => !endsAttrName c) :=
    ⟨hfirst, fun c hc => by simpa using List.mem_takeWhile_imp hc⟩
  unfold attribute? at h
  dsimp only at h
  split at h
  · split at h
    · split at h
      · obtain ⟨⟨value, behind⟩, -, heq⟩ := Option.map_eq_some_iff.mp h
        cases heq
        exact key
      · cases h
    · cases h
  · cases h

/-- Attributes are read under names that can be read. -/
theorem isAttrName_of_attributesFrom? {fuel : Nat} {done map : KeyMap String}
    {cs : List Char} (h : attributesFrom? fuel done cs = some map)
    (hdone : ∀ attr ∈ done.entries, IsAttrName attr.1.toList) :
    ∀ attr ∈ map.entries, IsAttrName attr.1.toList := by
  induction fuel generalizing done cs with
  | zero => cases h
  | succ fuel ih =>
    rw [attributesFrom?] at h
    split at h
    · cases h; exact hdone
    · next c rest hcs =>
      obtain ⟨⟨⟨name, raw⟩, rest⟩, hattr, h⟩ := Option.bind_eq_some_iff.mp h
      dsimp only at h
      split at h
      · cases h
      · obtain ⟨value, -, h⟩ := Option.bind_eq_some_iff.mp h
        refine ih h fun attr hmem => ?_
        rcases Fields.mem_insert hmem with rfl | hmem
        · have hfirst : isSpace c = false := by
            have hhead : c ∈ (cs.dropWhile isSpace).head? := by
              rw [hcs]
              rfl
            exact stops_of_mem_head? hhead
          rw [String.toList_ofList]
          exact isAttrName_of_attribute? hattr hfirst
        · exact hdone attr hmem

/-- An element begins with the name in its tag and readable attributes. -/
theorem eq_of_element? {name attrs : List Char} {node : XmlNode}
    (head : element? name attrs = some node) :
    ∃ map : KeyMap String, node = ⟨String.ofList name, map, [], ""⟩
      ∧ ∀ attr ∈ map.entries, IsAttrName attr.1.toList := by
  obtain ⟨map, hmap, rfl⟩ := Option.map_eq_some_iff.mp head
  exact ⟨map, rfl, isAttrName_of_attributesFrom? hmap nofun⟩

/-! ## From the events to the element -/

mutual
/-- **An element is spelled as its events are.** -/
theorem Element.spelled : ∀ {events : List Event} {node : XmlNode},
    Element events node →
      ∀ (opened : List (List Char)) (back : List Event),
        Spelled opened (events ++ back) →
          node.All XmlNode.Spelled ∧ Spelled opened back
  | _, _, @Element.empty name attrs _ head, opened, back, h => by
    obtain ⟨⟨first, solid⟩, hback⟩ := h
    obtain ⟨map, rfl, attrNames⟩ := eq_of_element? head
    rw [← @String.toList_ofList name] at first solid
    refine ⟨.intro ⟨first, solid, attrNames, fun filled => ?_⟩ nofun, hback⟩
    exact absurd filled (not_or.mpr ⟨(· rfl), (· rfl)⟩)
  | _, _, @Element.paired name attrs _ _ _ _ head inside, opened, back, h => by
    rw [List.cons_append, List.append_assoc] at h
    obtain ⟨⟨first, solid⟩, hinside⟩ := h
    obtain ⟨map, rfl, attrNames⟩ := eq_of_element? head
    obtain ⟨below, hclose, hback⟩ := inside.spelled (name :: opened) _ hinside
    have closed : quoteAfter? none name = some none := hclose name rfl
    rw [← @String.toList_ofList name] at first solid closed
    exact ⟨.intro ⟨first, solid, attrNames, fun _ => closed⟩ below, hback⟩

theorem Content.spelled : ∀ {events : List Event} {children : List XmlNode}
    {text : List Char}, Content events children text →
      ∀ (opened : List (List Char)) (back : List Event),
        Spelled opened (events ++ back) →
          (∀ child ∈ children, child.All XmlNode.Spelled)
            ∧ Spelled opened back
  | _, _, _, .nil, _, _, h => ⟨nofun, h⟩
  | _, _, _, .text _ rest, opened, back, h
  | _, _, _, .cdata _ rest, opened, back, h
  | _, _, _, .other rest, opened, back, h => rest.spelled opened back h.2
  | _, _, _, .child element rest, opened, back, h => by
    rw [List.append_assoc] at h
    obtain ⟨hnode, hrest⟩ := element.spelled opened _ h
    obtain ⟨hchildren, hback⟩ := rest.spelled opened back hrest
    exact ⟨List.forall_mem_cons.mpr ⟨hnode, hchildren⟩, hback⟩
end

/-- What stands around the root opens and closes nothing. -/
theorem Spelled.of_aside {row back : List Event} {opened : List (List Char)}
    (aside : row.all Event.isAside = true)
    (h : Spelled opened (row ++ back)) : Spelled opened back := by
  induction row with
  | nil => exact h
  | cons e row ih =>
    rw [List.all_cons, Bool.and_eq_true] at aside
    cases e with
    | text | cdata | other => exact ih aside.2 h.2
    | start | empty | close | malformed => cases aside.1

/-- **What is read is spelled as a reader finds it.** -/
theorem spelled_of_read {source : String} {root : XmlNode}
    (reads : read source = .ok root) : root.All XmlNode.Spelled := by
  have spelled := spelled_eventsFrom
    ((skipMark source.toList).length + 1) ⟨[], skipMark source.toList⟩
  have depicts : Depicts (stream source) root := ofEvents_eq_ok_iff.mp reads
  rw [stream, events] at depicts
  generalize eventsFrom _ _ = row at spelled depicts
  obtain ⟨before, element, -⟩ := depicts
  rw [List.append_assoc] at spelled
  exact (element.spelled [] _ (spelled.of_aside before)).1

end Xml

/-! ## Writing it, and reading it again -/

namespace XmlNode

/-- The tag of the element ends where it is written to end: its names leave
no quotation open, and if it is one of two tags and without attributes, its
name has no slash at the end. -/
structure TagsEnd (node : XmlNode) : Prop where
  closed : quoteAfter? none (names node.name node.attrs) = some none
  slash : node.Filled → node.attrs.entries = [] →
    node.name.toList.getLast? ≠ some '/'

/-- The text is the same, unless blanks stand at an end of it. If it is
nothing but blanks, it is dropped. -/
structure TextResembles (text text' : String) : Prop where
  trimmed : trimBoth text'.toList = trimBoth text.toList
  bare : Bare text.toList → text' = text
  blank : (∀ c ∈ text.toList, isSpace c = true) → text' = ""

/-- The elements are the same, but for blanks at the ends of texts. -/
inductive Resembles : XmlNode → XmlNode → Prop
  | intro {name : String} {attrs : KeyMap String}
      {children children' : List XmlNode} {text text' : String}
      (text_ok : TextResembles text text')
      (children_ok : List.Forall₂ Resembles children children') :
      Resembles ⟨name, attrs, children, text⟩ ⟨name, attrs, children', text'⟩

theorem textResembles_trimBoth (text : String) :
    TextResembles text (String.ofList (trimBoth text.toList)) where
  trimmed := by
    obtain ⟨-, -, -, -, -, bare⟩ := exists_trimBoth text.toList
    rw [String.toList_ofList, bare.trimBoth]
  bare h := by rw [h.trimBoth, String.ofList_toList]
  blank h := by rw [trimBoth_eq_nil_iff.mpr h, String.ofList_nil]

mutual
theorem resembles_trimmed : ∀ node : XmlNode, node.Resembles node.trimmed
  | ⟨_, _, children, text⟩ => by
    rw [trimmed]
    exact .intro (textResembles_trimBoth text) (resembles_trimmedAll children)

theorem resembles_trimmedAll : ∀ nodes : List XmlNode,
    List.Forall₂ Resembles nodes (trimmedAll nodes)
  | [] => .nil
  | node :: rest =>
    .cons (resembles_trimmed node) (resembles_trimmedAll rest)
end

/-- Of elements in a row that are written, each is. -/
theorem exists_write? {nodes : List XmlNode} {cs : List Char}
    (writes : writeAll? nodes = some cs) :
    ∀ node ∈ nodes, ∃ cs, node.write? = some cs := by
  induction nodes generalizing cs with
  | nil => exact nofun
  | cons node rest ih =>
    rw [writeAll?] at writes
    obtain ⟨first, hfirst, writes⟩ := Option.bind_eq_some_iff.mp writes
    obtain ⟨others, hothers, -⟩ := Option.bind_eq_some_iff.mp writes
    exact List.forall_mem_cons.mpr ⟨⟨first, hfirst⟩, ih hothers⟩

/-- An element that is written has a name, and its children are written. -/
theorem write?_cases {name : String} {attrs : KeyMap String}
    {children : List XmlNode} {text : String} {cs : List Char}
    (writes : (⟨name, attrs, children, text⟩ : XmlNode).write? = some cs) :
    name ≠ "" ∧ ∀ child ∈ children, ∃ cs, child.write? = some cs := by
  rw [write?] at writes
  split at writes
  · cases writes
  · next hname =>
    refine ⟨hname, ?_⟩
    dsimp only at writes
    split at writes
    · next h =>
      obtain ⟨hchildren, -⟩ := (Bool.and_eq_true _ _).mp h
      obtain rfl := List.isEmpty_iff.mp hchildren
      exact nofun
    · obtain ⟨inner, hinner, -⟩ := Option.map_eq_some_iff.mp writes
      exact exists_write? hinner

/-- What was read and is written can be read, if its tags end. -/
theorem All.rereadable {node : XmlNode} (spelled : node.All Spelled)
    (ends : node.All TagsEnd) {cs : List Char}
    (writes : node.write? = some cs) : node.All Rereadable := by
  induction spelled generalizing cs with
  | @intro name attrs children text self _ ih =>
    cases ends with
    | intro end_ok ends =>
      obtain ⟨hname, written⟩ := write?_cases writes
      refine .intro ⟨⟨⟨?_, self.first, self.solid⟩, self.attrNames,
        end_ok.closed⟩, self.closed, end_ok.slash⟩ fun child hchild => ?_
      · exact mt String.toList_eq_nil_iff.mp hname
      · obtain ⟨cs, hcs⟩ := written child hchild
        exact ih child hchild (ends child hchild) hcs

end XmlNode

namespace Xml

/-- **Reading, writing, and reading again.** Let a source text be read as an
element that can be written, and let each tag of the element end where it is
written to end. Then what is written is read, as the same element but for
blanks at the ends of texts: a text is the same if no blank stands at an end
of it, wherever it came from, and is dropped if it is nothing but blanks. If
there are no blanks at the ends of texts, it is the same element. -/
theorem read_write_read {source : String} {root : XmlNode} {cs : List Char}
    (reads : read source = .ok root) (writes : root.write? = some cs)
    (ends : root.All XmlNode.TagsEnd) :
    ∃ again, read (String.ofList cs) = .ok again ∧ root.Resembles again
      ∧ ((root.All fun node => Bare node.text.toList) → again = root) := by
  have rereadable := (spelled_of_read reads).rereadable ends writes
  obtain ⟨text, hwrite, hread⟩ := read_written_trimmed rereadable
  obtain rfl := Option.some.inj (writes.symm.trans hwrite)
  rw [String.ofList_toList]
  exact ⟨root.trimmed, hread, root.resembles_trimmed, XmlNode.trimmed_eq⟩

/-- A document with text in three pieces, a stretch of blanks, and a blank
that is quoted. -/
def pieced : String :=
  "<t a='1'>A&#32;<![CDATA[<&]]><b> </b><c><![CDATA[ ]]></c></t>"

/-- The root of `pieced`. -/
def piecedRoot : XmlNode where
  name := "t"
  attrs := KeyMap.ofList [("a", "1")]
  children := [{ name := "b" }, { name := "c", text := " " }]
  text := "A <&"

theorem read_write_read_pieced :
    read pieced = .ok piecedRoot
      ∧ piecedRoot.write?
        = some "<t a=\"1\">A &lt;&amp;<b/><c> </c></t>".toList
      ∧ piecedRoot.All XmlNode.TagsEnd
      ∧ ∃ again,
        read "<t a=\"1\">A &lt;&amp;<b/><c> </c></t>" = .ok again
          ∧ piecedRoot.Resembles again := by
  have reads : read pieced = .ok piecedRoot := by rfl
  have writes : piecedRoot.write?
      = some "<t a=\"1\">A &lt;&amp;<b/><c> </c></t>".toList := by rfl
  have ends : piecedRoot.All XmlNode.TagsEnd := by
    refine .intro ⟨rfl, fun _ => nofun⟩ (List.forall_mem_cons.mpr ⟨?_,
      List.forall_mem_cons.mpr ⟨?_, nofun⟩⟩)
    · exact .intro ⟨rfl, fun _ _ => by decide⟩ nofun
    · exact .intro ⟨rfl, fun _ _ => by decide⟩ nofun
  obtain ⟨again, hread, resembles, -⟩ := read_write_read reads writes ends
  rw [String.ofList_toList] at hread
  exact ⟨reads, writes, ends, again, hread, resembles⟩

/-! ## Elements that change -/

/-- If the source is read as an element and this is written, it is read as the
same element again. -/
def Rereads (source : String) : Prop :=
  ∀ (root : XmlNode) (cs : List Char), read source = .ok root →
    root.write? = some cs → read (String.ofList cs) = .ok root

/-- A quoted blank is written as a blank, a tag may be written like an empty
one, and the quotations in names may no longer fit once the attributes are in
order. -/
theorem not_rereads :
    ¬ Rereads "<a><![CDATA[ ]]></a>" ∧ ¬ Rereads "<a/ >x</a/>"
      ∧ ¬ Rereads "<a b'='\"' c\"=''/>" := by
  refine ⟨fun h => ?_, fun h => ?_, fun h => ?_⟩
  · have dropped : read "<a> </a>" = .ok { name := "a" } := by rfl
    have kept : read "<a> </a>" = .ok { name := "a", text := " " } :=
      h { name := "a", text := " " } _ rfl rfl
    rw [dropped] at kept
    exact absurd (congrArg XmlNode.text (Except.ok.inj kept)) (by decide)
  · have refused : read "<a/>x</a/>" = .error .malformed := by rfl
    have kept : read "<a/>x</a/>" = .ok { name := "a/", text := "x" } :=
      h { name := "a/", text := "x" } _ rfl rfl
    rw [refused] at kept
    cases kept
  · have refused : read "<a b'=\"&quot;\" c\"=\"\"/>" = .error .malformed := by
      rfl
    have kept : read "<a b'=\"&quot;\" c\"=\"\"/>" = .ok _ :=
      h ⟨"a", KeyMap.ofList [("b'", "\""), ("c\"", "")], [], ""⟩ _ rfl rfl
    rw [refused] at kept
    cases kept

end Xml

end ScriptHost
