/-
ScriptHost.Proofs.Xml.Stream — the element that a row of events stands for.

`Element` and `Content` say which events stand for an element and for what is
inside one, `Depicts` adds what may stand around the root. The builder, which
keeps the open elements on a stack, builds just this element
(`ofEvents_eq_ok_iff`): what a stretch of content does to the innermost open
element is `Content.foldlM_step`, and every row on which the builder closes
this element begins with such a stretch (`exists_content`).

`WellFormed` says without the tree what a row needs for that: no error,
readable attributes and texts, every element ended, and one element at the
top. A reader's row has no closing tag too many (`noStray_eventsFrom`), and of
such rows the builder accepts exactly the well-formed ones (`finishes_iff`).
-/
import ScriptHost.Proofs.Xml.Markup
import ScriptHost.Xml.Tree

namespace ScriptHost

open Xml

namespace Xml

/-! ## Elements out of events -/

mutual
/-- The events stand for the element. -/
inductive Element : List Event → XmlNode → Prop
  | empty {name attrs : List Char} {node : XmlNode}
    (head : element? name attrs = some node) :
    Element [.empty name attrs] node
  | paired {name attrs : List Char} {node : XmlNode} {events : List Event}
    {children : List XmlNode} {text : List Char}
    (head : element? name attrs = some node)
    (inside : Content events children text) :
    Element (.start name attrs :: (events ++ [.close]))
      { node with children := children, text := String.ofList text }

/-- The events stand for the inside of an element with the children and the
text. -/
inductive Content : List Event → List XmlNode → List Char → Prop
  | nil : Content [] [] []
  | text {raw cs : List Char} {events : List Event}
    {children : List XmlNode} {text : List Char}
    (read : unescape? raw = some cs) (rest : Content events children text) :
    Content (.text raw :: events) children (cs ++ text)
  | cdata (cs : List Char) {events : List Event} {children : List XmlNode}
    {text : List Char} (rest : Content events children text) :
    Content (.cdata cs :: events) children (cs ++ text)
  | other {events : List Event} {children : List XmlNode} {text : List Char}
    (rest : Content events children text) :
    Content (.other :: events) children text
  | child {first events : List Event} {node : XmlNode}
    {children : List XmlNode} {text : List Char} (element : Element first node)
    (rest : Content events children text) :
    Content (first ++ events) (node :: children) text
end

/-- Can the event stand outside of the root? -/
def Event.isAside : Event → Bool
  | .text _ | .cdata _ | .other => true
  | _ => false

/-- The events stand for a document with the root. What stands around it is
left out. -/
inductive Depicts : List Event → XmlNode → Prop
  | intro {front events back : List Event} {root : XmlNode}
    (before : front.all Event.isAside = true) (element : Element events root)
    (after : back.all Event.isAside = true) :
    Depicts (front ++ events ++ back) root

end Xml

/-! ## One node for each tag -/

mutual
/-- Name and attributes of the element and of all elements in it, in the order
of their tags. -/
def XmlNode.heads : XmlNode → List (String × KeyMap String)
  | ⟨name, attrs, children, _⟩ => (name, attrs) :: headsAll children

/-- `heads` of elements in a row. -/
def XmlNode.headsAll : List XmlNode → List (String × KeyMap String)
  | [] => []
  | node :: rest => heads node ++ headsAll rest
end

namespace Xml

/-- Name and attributes in a tag that begins an element. -/
def Event.head? : Event → Option (String × KeyMap String)
  | .start name attrs | .empty name attrs =>
    (element? name attrs).map fun node => (node.name, node.attrs)
  | _ => none

theorem head?_of_isAside {e : Event} (h : e.isAside = true) :
    e.head? = none := by
  cases e with
  | text | cdata | other => rfl
  | start | empty | close | malformed => cases h

mutual
theorem Element.heads_eq : ∀ {events : List Event} {node : XmlNode},
    Element events node → events.filterMap Event.head? = node.heads
  | _, _, @Element.empty name attrs _ head => by
    have hhead : (Event.empty name attrs).head? = _ :=
      congrArg (Option.map _) head
    obtain ⟨map, -, rfl⟩ := Option.map_eq_some_iff.mp head
    rw [List.filterMap_cons_some hhead]
    rfl
  | _, _, @Element.paired name attrs _ _ _ _ head inside => by
    have hhead : (Event.start name attrs).head? = _ :=
      congrArg (Option.map _) head
    obtain ⟨map, -, rfl⟩ := Option.map_eq_some_iff.mp head
    rw [List.filterMap_cons_some hhead, List.filterMap_append,
      inside.heads_eq, XmlNode.heads]
    exact congrArg _ (List.append_nil _)

theorem Content.heads_eq : ∀ {events : List Event} {children : List XmlNode}
    {text : List Char}, Content events children text →
      events.filterMap Event.head? = XmlNode.headsAll children
  | _, _, _, .nil => rfl
  | _, _, _, .text _ rest | _, _, _, .cdata _ rest | _, _, _, .other rest => by
    rw [List.filterMap_cons_none rfl, rest.heads_eq]
  | _, _, _, .child element rest => by
    rw [List.filterMap_append, element.heads_eq, rest.heads_eq,
      XmlNode.headsAll]
end

/-- **Each tag that begins an element gives one node, in order.** -/
theorem Depicts.heads_eq {events : List Event} {root : XmlNode}
    (h : Depicts events root) :
    root.heads = events.filterMap Event.head? := by
  obtain ⟨before, element, after⟩ := h
  have aside {row : List Event} (h : row.all Event.isAside = true) :
      row.filterMap Event.head? = [] :=
    List.filterMap_eq_nil_iff.mpr fun e he =>
      head?_of_isAside (List.all_eq_true.mp h e he)
  rw [List.filterMap_append, List.filterMap_append, aside before,
    aside after, element.heads_eq, List.nil_append, List.append_nil]

/-! ## What the builder does with them -/

section Fold

variable {b b' : Builder} {events : List Event}

theorem foldlM_cons_ok {e : Event} (h : b.step e = .ok b')
    (events : List Event) :
    (e :: events).foldlM Builder.step b = events.foldlM Builder.step b' := by
  rw [List.foldlM_cons, h]
  rfl

theorem foldlM_append_ok (h : events.foldlM Builder.step b = .ok b')
    (others : List Event) :
    (events ++ others).foldlM Builder.step b
      = others.foldlM Builder.step b' := by
  rw [List.foldlM_append, h]
  rfl

/-- A row that is taken in is taken in event by event. -/
theorem exists_step {e : Event}
    (h : (e :: events).foldlM Builder.step b = .ok b') :
    ∃ next, b.step e = .ok next
      ∧ events.foldlM Builder.step next = .ok b' := by
  rw [List.foldlM_cons] at h
  cases hstep : b.step e with
  | error error => rw [hstep] at h; cases h
  | ok next => exact ⟨next, rfl, by rw [hstep] at h; exact h⟩

end Fold

section Step

variable {name attrs raw cs : List Char} {node : XmlNode} {b : Builder}

theorem step_start (head : element? name attrs = some node) :
    b.step (.start name attrs) = .ok { b with opened := node :: b.opened } := by
  rw [Builder.step, head]

theorem step_empty (head : element? name attrs = some node) :
    b.step (.empty name attrs) = b.attach node := by
  rw [Builder.step, head]

theorem step_text (read : unescape? raw = some cs) (outer : List XmlNode)
    (root : Option XmlNode) :
    (⟨node :: outer, root⟩ : Builder).step (.text raw)
      = .ok ⟨{ node with text := node.text ++ String.ofList cs } :: outer,
        root⟩ := by
  simp [Builder.step, read, Builder.addText]

/-- A tag that is taken in can be read. -/
theorem exists_start {next : Builder}
    (h : b.step (.start name attrs) = .ok next) :
    ∃ node, element? name attrs = some node
      ∧ next = { b with opened := node :: b.opened } := by
  cases head : element? name attrs with
  | none => rw [Builder.step, head] at h; cases h
  | some node =>
    rw [step_start head] at h
    exact ⟨node, rfl, (Except.ok.inj h).symm⟩

theorem exists_empty {next : Builder}
    (h : b.step (.empty name attrs) = .ok next) :
    ∃ node, element? name attrs = some node ∧ b.attach node = .ok next := by
  cases head : element? name attrs with
  | none => rw [Builder.step, head] at h; cases h
  | some node => exact ⟨node, rfl, (step_empty head).symm.trans h⟩

/-- Text that is taken in can be read. -/
theorem exists_text {outer : List XmlNode} {root : Option XmlNode}
    {next : Builder}
    (h : (⟨node :: outer, root⟩ : Builder).step (.text raw) = .ok next) :
    ∃ cs, unescape? raw = some cs
      ∧ next = ⟨{ node with text := node.text ++ String.ofList cs } :: outer,
        root⟩ := by
  cases read : unescape? raw with
  | none => simp [Builder.step, read] at h
  | some cs =>
    rw [step_text read] at h
    exact ⟨cs, rfl, (Except.ok.inj h).symm⟩

theorem step_cdata (node : XmlNode) (cs : List Char) (outer : List XmlNode)
    (root : Option XmlNode) :
    (⟨node :: outer, root⟩ : Builder).step (.cdata cs)
      = .ok ⟨{ node with text := node.text ++ String.ofList cs } :: outer,
        root⟩ := rfl

theorem attach_child (parent child : XmlNode) (outer : List XmlNode)
    (root : Option XmlNode) :
    (⟨parent :: outer, root⟩ : Builder).attach child
      = .ok ⟨{ parent with children := parent.children ++ [child] } :: outer,
        root⟩ := rfl

theorem attach_root (node : XmlNode) :
    (⟨[], none⟩ : Builder).attach node = .ok ⟨[], some node⟩ := rfl

end Step

mutual
/-- **The events of an element put it where it belongs.** -/
theorem Element.foldlM_step : ∀ {events : List Event} {node : XmlNode},
    Element events node → ∀ b : Builder,
      events.foldlM Builder.step b = b.attach node
  | _, _, .empty head, b => by
    rw [List.foldlM_cons, step_empty head]
    exact bind_pure _
  | _, _, .paired head inside, b => by
    rw [foldlM_cons_ok (step_start head),
      foldlM_append_ok (inside.foldlM_step _ _ _), List.foldlM_cons,
      Builder.step]
    obtain ⟨map, -, rfl⟩ := Option.map_eq_some_iff.mp head
    rw [String.empty_append, List.nil_append]
    exact bind_pure _

/-- **Content goes into the innermost element**, behind what is there. -/
theorem Content.foldlM_step : ∀ {events : List Event}
    {children : List XmlNode} {text : List Char},
    Content events children text →
      ∀ (node : XmlNode) (outer : List XmlNode) (root : Option XmlNode),
        events.foldlM Builder.step ⟨node :: outer, root⟩
          = .ok ⟨{ node with
            children := node.children ++ children
            text := node.text ++ String.ofList text } :: outer, root⟩
  | _, _, _, .nil, node, outer, root => by
    obtain ⟨⟩ := node
    simp [pure, Except.pure]
  | _, _, _, .text read rest, node, outer, root => by
    rw [foldlM_cons_ok (step_text read outer root), rest.foldlM_step,
      String.ofList_append, String.append_assoc]
  | _, _, _, .cdata cs rest, node, outer, root => by
    rw [foldlM_cons_ok (step_cdata node cs outer root), rest.foldlM_step,
      String.ofList_append, String.append_assoc]
  | _, _, _, .other rest, node, outer, root => by
    rw [foldlM_cons_ok rfl, rest.foldlM_step]
  | _, _, _, .child element rest, node, outer, root => by
    rw [foldlM_append_ok ((element.foldlM_step _).trans
        (attach_child node _ outer root)), rest.foldlM_step,
      List.append_assoc, List.singleton_append]
end

/-- What may stand outside of the root changes nothing there. -/
theorem foldlM_aside {row : List Event} (h : row.all Event.isAside = true)
    (root : Option XmlNode) :
    row.foldlM Builder.step ⟨[], root⟩ = .ok ⟨[], root⟩ := by
  induction row with
  | nil => rfl
  | cons e row ih =>
    rw [List.all_cons, Bool.and_eq_true] at h
    have hstep : (⟨[], root⟩ : Builder).step e = .ok ⟨[], root⟩ := by
      cases e with
      | text | cdata | other => rfl
      | start | empty | close | malformed => cases h.1
    rw [foldlM_cons_ok hstep, ih h.2]

/-! ## What the builder has been given -/

/-- **A row that closes an element begins with content of it.** -/
theorem exists_content {events : List Event} {node : XmlNode}
    {outer : List XmlNode} {root final : Option XmlNode}
    (closes : events.foldlM Builder.step ⟨node :: outer, root⟩
      = .ok ⟨[], final⟩) :
    ∃ inside back children text, events = inside ++ .close :: back
      ∧ Content inside children text := by
  -- Behind an element in the content, the content goes on: the row that is
  -- left is shorter, but not the tail of the row.
  induction hlen : events.length using Nat.strongRecOn
    generalizing events node outer root with
  | _ n ih =>
  cases events with
  | nil => cases closes
  | cons e events =>
  have shorter : events.length < n := by
    rw [← hlen, List.length_cons]
    exact Nat.lt_succ_self _
  -- An element in front of a row that goes on with the content.
  have child {first : List Event} (back : List Event) {element : XmlNode}
      (hchild : Element first element)
      (hrow : e :: events = first ++ back)
      (hback : back.length < n) :
      ∃ inside back children text, e :: events = inside ++ .close :: back
        ∧ Content inside children text := by
    rw [hrow, foldlM_append_ok ((hchild.foldlM_step _).trans
      (attach_child node element outer root))] at closes
    obtain ⟨inside, back, children, text, rfl, content⟩ :=
      ih _ hback closes rfl
    exact ⟨first ++ inside, back, _, text,
      by rw [hrow, List.append_assoc], .child hchild content⟩
  obtain ⟨next, hstep, hrest⟩ := exists_step closes
  cases e with
  | start name attrs =>
    obtain ⟨element, head, rfl⟩ := exists_start hstep
    obtain ⟨inside, back, children, text, rfl, content⟩ :=
      ih _ shorter hrest rfl
    refine child back (.paired head content) (by simp) ?_
    simp only [List.length_append, List.length_cons] at shorter
    omega
  | empty name attrs =>
    obtain ⟨element, head, -⟩ := exists_empty hstep
    exact child events (.empty head) rfl shorter
  | close => exact ⟨[], events, [], [], rfl, .nil⟩
  | text raw =>
    obtain ⟨cs, read, rfl⟩ := exists_text hstep
    obtain ⟨inside, back, children, text, rfl, content⟩ :=
      ih _ shorter hrest rfl
    exact ⟨.text raw :: inside, back, children, _, rfl, .text read content⟩
  | cdata cs =>
    obtain rfl := Except.ok.inj hstep
    obtain ⟨inside, back, children, text, rfl, content⟩ :=
      ih _ shorter hrest rfl
    exact ⟨.cdata cs :: inside, back, children, _, rfl, .cdata cs content⟩
  | other =>
    obtain rfl := Except.ok.inj hstep
    obtain ⟨inside, back, children, text, rfl, content⟩ :=
      ih _ shorter hrest rfl
    exact ⟨.other :: inside, back, children, text, rfl, .other content⟩
  | malformed => cases hstep

/-- Behind the root, only what may stand outside of it is taken in. -/
theorem isAside_of_rooted {events : List Event} {root : XmlNode}
    {final : Option XmlNode}
    (takes : events.foldlM Builder.step ⟨[], some root⟩ = .ok ⟨[], final⟩) :
    events.all Event.isAside = true := by
  induction events with
  | nil => rfl
  | cons e events ih =>
    obtain ⟨next, hstep, hrest⟩ := exists_step takes
    cases e with
    | start name attrs =>
      -- The element would be a second root.
      obtain ⟨element, head, rfl⟩ := exists_start hstep
      obtain ⟨inside, back, children, text, rfl, content⟩ :=
        exists_content hrest
      rw [foldlM_append_ok (content.foldlM_step _ _ _)] at hrest
      cases hrest
    | empty name attrs =>
      obtain ⟨element, head, attached⟩ := exists_empty hstep
      cases attached
    | text | cdata | other =>
      obtain rfl := Except.ok.inj hstep
      exact ih hrest
    | close | malformed => cases hstep

/-- In front of the root too, and then the root is what is depicted. -/
theorem depicts_of_foldlM {events : List Event} {root : XmlNode}
    (takes : events.foldlM Builder.step ⟨[], none⟩ = .ok ⟨[], some root⟩) :
    Depicts events root := by
  -- An element in front of the rest is the root.
  have rooted (first : List Event) {back : List Event} {element : XmlNode}
      (hfirst : Element first element)
      (hback : (first ++ back).foldlM Builder.step ⟨[], none⟩
        = .ok ⟨[], some root⟩) : Depicts (first ++ back) root := by
    rw [foldlM_append_ok ((hfirst.foldlM_step _).trans
      (attach_root element))] at hback
    have after := isAside_of_rooted hback
    rw [foldlM_aside after] at hback
    cases hback
    exact @Depicts.intro [] _ _ _ rfl hfirst after
  induction events with
  | nil => cases takes
  | cons e events ih =>
    obtain ⟨next, hstep, hrest⟩ := exists_step takes
    cases e with
    | start name attrs =>
      obtain ⟨element, head, rfl⟩ := exists_start hstep
      obtain ⟨inside, back, children, text, rfl, content⟩ :=
        exists_content hrest
      have hrow : Event.start name attrs :: (inside ++ .close :: back)
          = (.start name attrs :: (inside ++ [.close])) ++ back := by simp
      rw [hrow] at takes ⊢
      exact rooted _ (.paired head content) takes
    | empty name attrs =>
      obtain ⟨element, head, -⟩ := exists_empty hstep
      exact rooted [.empty name attrs] (.empty head) takes
    | text | cdata | other =>
      obtain rfl := Except.ok.inj hstep
      obtain ⟨before, element, after⟩ := ih hrest
      exact @Depicts.intro (_ :: _) _ _ _
        (by simpa [Event.isAside] using before) element after
    | close | malformed => cases hstep

theorem ofEvents_eq_ok {events : List Event} {root : XmlNode} :
    ofEvents events = .ok root
      ↔ events.foldlM Builder.step {} = .ok ⟨[], some root⟩ := by
  rw [ofEvents]
  cases events.foldlM Builder.step {} with
  | error e => exact ⟨nofun, nofun⟩
  | ok b =>
    obtain ⟨_ | ⟨node, outer⟩, _ | root'⟩ := b <;>
      simp [bind, Except.bind, Builder.finish]

/-- **The builder builds just what the events stand for.** -/
theorem ofEvents_eq_ok_iff {events : List Event} {root : XmlNode} :
    ofEvents events = .ok root ↔ Depicts events root := by
  rw [ofEvents_eq_ok]
  refine ⟨depicts_of_foldlM, ?_⟩
  rintro ⟨before, element, after⟩
  rw [List.append_assoc, foldlM_append_ok (foldlM_aside before none),
    foldlM_append_ok (element.foldlM_step ⟨[], none⟩)]
  exact foldlM_aside after (some root)

/-! ## Rows that are documents -/

/-- How many elements are open behind the event. -/
def Event.depth (n : Nat) : Event → Nat
  | .start .. => n + 1
  | .close => n - 1
  | _ => n

/-- Each event with the number of elements that are open in front of it. -/
def levels : Nat → List Event → List (Nat × Event)
  | _, [] => []
  | n, e :: events => (n, e) :: levels (e.depth n) events

/-- How many elements are open behind all of the events. -/
def depthAfter (n : Nat) (events : List Event) : Nat :=
  events.foldl (fun n e => e.depth n) n

/-- Does the event begin an element? -/
def Event.isElement : Event → Bool
  | .start .. | .empty .. => true
  | _ => false

/-- Does the event begin an element that is in no other? -/
def atTop (p : Nat × Event) : Bool := p.1 = 0 && p.2.isElement

/-- The attributes of the event can be read, if it has any. -/
def Event.AttributesRead : Event → Prop
  | .start _ attrs | .empty _ attrs => (attributes? attrs).isSome
  | _ => True

/-- The text of the event can be read, if it has any. -/
def Event.TextRead : Event → Prop
  | .text raw => (unescape? raw).isSome
  | _ => True

/-- Behind `n` open elements, the events end a document that has had `roots`
elements at its top. -/
structure WellFormedFrom (n roots : Nat) (events : List Event) : Prop where
  no_error : .malformed ∉ events
  attributes : ∀ e ∈ events, e.AttributesRead
  texts : ∀ p ∈ levels n events, 0 < p.1 → p.2.TextRead
  ended : depthAfter n events = 0
  single : roots + (levels n events).countP atTop = 1

/-- There is no error among the events, all attributes and the texts inside
of elements can be read, every element is ended, and there is exactly one at
the top. -/
def WellFormed (events : List Event) : Prop := WellFormedFrom 0 0 events

/-- No event closes an element where none is open. -/
def NoStray (n : Nat) (events : List Event) : Prop :=
  (0, .close) ∉ levels n events

/-- What a well-formed row asks of a single event. -/
structure Event.Fine (n : Nat) (e : Event) : Prop where
  no_error : e ≠ .malformed
  attributes : e.AttributesRead
  text : 0 < n → e.TextRead

/-- How many elements at the top the event begins. -/
def Event.tops (n : Nat) (e : Event) : Nat := if atTop (n, e) then 1 else 0

theorem wellFormedFrom_cons {n roots : Nat} {e : Event}
    {events : List Event} :
    WellFormedFrom n roots (e :: events)
      ↔ e.Fine n ∧ WellFormedFrom (e.depth n) (roots + e.tops n) events := by
  constructor
  · rintro ⟨no_error, attributes, texts, ended, single⟩
    rw [List.mem_cons, not_or] at no_error
    obtain ⟨hattr, hattrs⟩ := List.forall_mem_cons.mp attributes
    obtain ⟨htext, htexts⟩ := List.forall_mem_cons.mp texts
    rw [levels, List.countP_cons] at single
    exact ⟨⟨Ne.symm no_error.1, hattr, htext⟩, no_error.2, hattrs, htexts,
      ended, by rw [Event.tops]; omega⟩
  · rintro ⟨⟨hne, hattr, htext⟩, no_error, attributes, texts, ended, single⟩
    refine ⟨?_, List.forall_mem_cons.mpr ⟨hattr, attributes⟩,
      List.forall_mem_cons.mpr ⟨htext, texts⟩, ended, ?_⟩
    · rw [List.mem_cons, not_or]
      exact ⟨Ne.symm hne, no_error⟩
    · rw [Event.tops] at single
      rw [levels, List.countP_cons]
      omega

/-- How many elements at the top the builder has met. -/
def Builder.tops (b : Builder) : Nat :=
  (if b.root.isSome then 1 else 0) + if b.opened.isEmpty then 0 else 1

/-- The event is fine and taken in, and elements are opened and counted as it
says. -/
def TakenIn (b : Builder) (e : Event) : Prop :=
  e.Fine b.opened.length ∧ ∃ next, b.step e = .ok next
    ∧ next.opened.length = e.depth b.opened.length
    ∧ next.tops = b.tops + e.tops b.opened.length

/-- The event is refused. If it is fine, it would end or begin a second
element at the top. -/
def Refused (b : Builder) (e : Event) : Prop :=
  (∃ error, b.step e = .error error)
    ∧ (e.Fine b.opened.length → 1 < b.tops + e.tops b.opened.length)

/-- An element finds its place unless it is a second root. -/
theorem attach_cases (opened : List XmlNode) (root : Option XmlNode)
    (node : XmlNode) :
    (∃ next, (⟨opened, root⟩ : Builder).attach node = .ok next
        ∧ next.opened.length = opened.length
        ∧ next.tops = (if root.isSome then 1 else 0) + 1)
      ∨ (∃ error, (⟨opened, root⟩ : Builder).attach node = .error error)
        ∧ opened = [] ∧ root.isSome := by
  cases opened with
  | cons parent outer => exact .inl ⟨_, rfl, rfl, rfl⟩
  | nil =>
    cases root with
    | none => exact .inl ⟨_, rfl, rfl, rfl⟩
    | some root => exact .inr ⟨⟨_, rfl⟩, rfl, rfl⟩

theorem isSome_attributes {name attrs : List Char} {node : XmlNode}
    (head : element? name attrs = some node) :
    (attributes? attrs).isSome := by
  obtain ⟨map, hmap, -⟩ := Option.map_eq_some_iff.mp head
  rw [hmap]
  rfl

theorem attributes_of_none {name attrs : List Char}
    (head : element? name attrs = none) : attributes? attrs = none :=
  Option.map_eq_none_iff.mp head

/-- **What an event does to the builder.** -/
theorem step_cases (b : Builder) (e : Event)
    (stray : e = .close → b.opened ≠ []) : TakenIn b e ∨ Refused b e := by
  obtain ⟨opened, root⟩ := b
  cases e with
  | start name attrs =>
    cases head : element? name attrs with
    | none =>
      refine .inr ⟨⟨_, by rw [Builder.step, head]⟩, fun fine => ?_⟩
      have hsome : (attributes? attrs).isSome := fine.attributes
      rw [attributes_of_none head] at hsome
      cases hsome
    | some node =>
      refine .inl ⟨⟨nofun, isSome_attributes head, fun _ => trivial⟩, _,
        step_start head, rfl, ?_⟩
      cases opened <;> cases root <;> rfl
  | empty name attrs =>
    cases head : element? name attrs with
    | none =>
      refine .inr ⟨⟨_, by rw [Builder.step, head]⟩, fun fine => ?_⟩
      have hsome : (attributes? attrs).isSome := fine.attributes
      rw [attributes_of_none head] at hsome
      cases hsome
    | some node =>
      rcases attach_cases opened root node with
        ⟨next, hnext, hlength, htops⟩ | ⟨⟨error, herror⟩, rfl, hroot⟩
      · refine .inl ⟨⟨nofun, isSome_attributes head, fun _ => trivial⟩, next,
          (step_empty head).trans hnext, hlength, ?_⟩
        rw [htops]
        cases opened <;> rfl
      · refine .inr ⟨⟨error, (step_empty head).trans herror⟩, fun _ => ?_⟩
        simp [Builder.tops, Event.tops, atTop, Event.isElement, hroot]
  | close =>
    cases opened with
    | nil => exact absurd rfl (stray rfl)
    | cons node outer =>
      rcases attach_cases outer root node with
        ⟨next, hnext, hlength, htops⟩ | ⟨⟨error, herror⟩, rfl, hroot⟩
      · exact .inl ⟨⟨nofun, trivial, fun _ => trivial⟩, next, hnext, hlength,
          htops⟩
      · refine .inr ⟨⟨error, herror⟩, fun _ => ?_⟩
        simp [Builder.tops, Event.tops, atTop, Event.isElement, hroot]
  | text raw =>
    cases opened with
    | nil =>
      exact .inl ⟨⟨nofun, trivial, fun h => absurd h (Nat.lt_irrefl 0)⟩, _,
        rfl, rfl, rfl⟩
    | cons node outer =>
      cases read : unescape? raw with
      | none =>
        refine .inr ⟨⟨.malformed, by simp [Builder.step, read]⟩,
          fun fine => ?_⟩
        have hsome : (unescape? raw).isSome := fine.text (Nat.succ_pos _)
        rw [read] at hsome
        cases hsome
      | some cs =>
        refine .inl ⟨⟨nofun, trivial, fun _ => ?_⟩, _,
          step_text read outer root, rfl, rfl⟩
        rw [Event.TextRead, read]
        rfl
  | cdata cs =>
    refine .inl ⟨⟨nofun, trivial, fun _ => trivial⟩, _, rfl, ?_⟩
    cases opened <;> exact ⟨rfl, rfl⟩
  | other =>
    refine .inl ⟨⟨nofun, trivial, fun _ => trivial⟩, _, rfl, rfl, ?_⟩
    simp [Event.tops, atTop, Event.isElement]
  | malformed =>
    exact .inr ⟨⟨_, rfl⟩, fun fine => absurd rfl fine.no_error⟩

/-- **The builder accepts the well-formed rows**, in each of its states. -/
theorem finishes_iff {events : List Event} {b : Builder}
    (stray : NoStray b.opened.length events) :
    (∃ root, events.foldlM Builder.step b = .ok ⟨[], some root⟩)
      ↔ WellFormedFrom b.opened.length b.tops events := by
  induction events generalizing b with
  | nil =>
    obtain ⟨opened, root⟩ := b
    constructor
    · rintro ⟨root', h⟩
      cases h
      exact ⟨nofun, nofun, nofun, rfl, rfl⟩
    · rintro ⟨-, -, -, ended, single⟩
      obtain rfl := List.eq_nil_of_length_eq_zero ended
      cases root with
      | none => cases single
      | some root => exact ⟨root, rfl⟩
  | cons e events ih =>
    rw [NoStray, levels, List.mem_cons, not_or] at stray
    obtain ⟨hstray, hrest⟩ := stray
    have hclose : e = .close → b.opened ≠ [] := by
      rintro rfl hnil
      rw [hnil] at hstray
      exact hstray rfl
    rw [wellFormedFrom_cons]
    rcases step_cases b e hclose with
      ⟨fine, next, hstep, hdepth, htops⟩ | ⟨⟨error, hstep⟩, twice⟩
    · rw [foldlM_cons_ok hstep, ih (by rw [hdepth]; exact hrest), hdepth,
        htops]
      exact (and_iff_right fine).symm
    · constructor
      · rintro ⟨root, h⟩
        obtain ⟨next, hok, -⟩ := exists_step h
        rw [hstep] at hok
        cases hok
      · rintro ⟨fine, wellFormed⟩
        have hsingle := wellFormed.single
        have htwice := twice fine
        omega

/-! ## The reader's rows -/

/-- The names of the elements that are open behind the event. -/
def Event.opened (opened : List (List Char)) : Event → List (List Char)
  | .start name _ => name :: opened
  | .close => opened.tail
  | _ => opened

theorem Event.length_opened (opened : List (List Char)) (e : Event) :
    (e.opened opened).length = e.depth opened.length := by
  cases e with
  | close => exact List.length_tail
  | start | empty | text | cdata | other | malformed => rfl

section Markup

variable {opened : List (List Char)} {cs : List Char} {e : Event}
  {place : Place}

/-- What is open behind markup is what its event leaves open. -/
theorem Markup.opened_eq (h : Markup opened cs e place) :
    place.opened = e.opened opened := by
  cases h <;> rfl

/-- An element is closed only where one is open. -/
theorem Markup.opened_ne_nil (h : Markup opened cs .close place) :
    opened ≠ [] := by
  cases h
  exact List.cons_ne_nil _ _

end Markup

/-- **No reader closes an element where none is open.** -/
theorem noStray_eventsFrom (fuel : Nat) (place : Place) :
    NoStray place.opened.length (eventsFrom fuel place) := by
  induction fuel generalizing place with
  | zero => exact nofun
  | succ fuel ih =>
    unfold eventsFrom
    split
    · exact nofun
    · split
      · simp [NoStray, levels]
      · next e next hmarkup =>
        have kind := markup_of_markup? hmarkup
        rw [NoStray, levels, List.mem_cons, not_or, ← Event.length_opened,
          ← kind.opened_eq]
        refine ⟨fun h => ?_, ih next⟩
        obtain ⟨hlength, rfl⟩ := Prod.mk.inj h
        exact kind.opened_ne_nil
          (List.eq_nil_of_length_eq_zero hlength.symm)
    · rw [NoStray, levels, List.mem_cons, not_or]
      refine ⟨by simp, ?_⟩
      exact ih ⟨place.opened, (place.rest.dropWhile isSpace).dropWhile isText⟩

/-- The events that the reader cuts a document into. -/
def stream (document : String) : List Event :=
  events (skipMark document.toList)

/-- **Reading a document.** Given the events that the reader cuts a document
into, the document is read exactly if there is no error among them, all
attributes and the texts inside of elements can be read, every element is
ended, and there is exactly one at the top. What is read is then the element
that the events stand for: each tag that begins an element gives one node,
under the node that is open there and behind those that were closed before;
the text of a node is what stands in it directly, in order; and what stands
around the root is left out. -/
theorem read_iff_stream (document : String) :
    ((∃ root, read document = .ok root) ↔ WellFormed (stream document))
      ∧ (∀ root, read document = .ok root ↔ Depicts (stream document) root)
      ∧ ∀ root, read document = .ok root →
        root.heads = (stream document).filterMap Event.head? := by
  have depicts (root : XmlNode) :
      read document = .ok root ↔ Depicts (stream document) root :=
    ofEvents_eq_ok_iff
  refine ⟨?_, depicts, fun root h => ((depicts root).mp h).heads_eq⟩
  have stray : NoStray ({} : Builder).opened.length (stream document) :=
    noStray_eventsFrom _ ⟨[], skipMark document.toList⟩
  have accepts : _ ↔ WellFormed (stream document) := finishes_iff stray
  rw [← accepts]
  exact exists_congr fun root => ofEvents_eq_ok

/-- A document with text around the root, and text in three pieces around a
child. -/
def mixed : String :=
  "x <town id='1'>Tha<br/><!-- y --><![CDATA[i<]]>&#115;</town><!-- z -->"

/-- The root of `mixed`. -/
def mixedRoot : XmlNode where
  name := "town"
  attrs := KeyMap.ofList [("id", "1")]
  children := [{ name := "br" }]
  text := "Thai<s"

theorem read_mixed :
    read mixed = .ok mixedRoot
      ∧ mixedRoot.heads
        = [("town", KeyMap.ofList [("id", "1")]), ("br", ∅)]
      ∧ mixedRoot.heads = (stream mixed).filterMap Event.head? := by
  have hread : read mixed = .ok mixedRoot := by rfl
  exact ⟨hread, rfl, (read_iff_stream mixed).2.2 _ hread⟩

end Xml

end ScriptHost
