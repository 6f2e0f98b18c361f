/-
ScriptHost.Proofs.Capability.XmlValue — the table of an element gives the
element.

The value of an element as data is a table with four fields. It opens to the
unfolding of these fields (`Heap.gives_node`), so `Unfolding.asNode` undoes
`XmlNode.toJson`.
-/
import ScriptHost.Capability.XmlValue
import ScriptHost.Proofs.Script.DataTrip

namespace ScriptHost

namespace Unfolding

/-! ## Reading texts -/

theorem asText_ofText (s : String) :
    (scalar (.ofText s)).asText = .ok s := by
  simp [asText, Value.ofText]

theorem asFieldName_ofText (s : String) :
    (scalar (.ofText s)).asFieldName = .ok s := by
  simp [asFieldName, Value.ofText, Except.toOption]

theorem checkEntry_ofText (s : String) {u : Unfolding}
    (h : u.isAgain = false) : checkEntry (scalar (.ofText s), u) = .ok () := by
  rw [checkEntry, h]
  rfl

/-- Entries of texts are attributes. -/
theorem attributes_texts (attrs : List (String × String)) :
    attributes (attrs.map fun attr =>
        (scalar (.ofText attr.1), scalar (.ofText attr.2)))
      = .ok attrs := by
  induction attrs with
  | nil => rfl
  | cons attr rest ih =>
    rw [List.map_cons, attributes, checkEntry_ofText attr.1 rfl,
      asText_ofText, asText_ofText, ih]
    rfl

/-- The four fields of an element give it. -/
theorem fields_node (node : XmlNode) {attrs children : Unfolding}
    (hattrs : attrs.isAgain = false) (hchildren : children.isAgain = false)
    (attrs_ok : attrs.asAttributes = .ok node.attrs)
    (children_ok : children.asChildren = .ok node.children) :
    fields {} [(scalar (.ofText "attrs"), attrs),
        (scalar (.ofText "children"), children),
        (scalar (.ofText "name"), scalar (.ofText node.name)),
        (scalar (.ofText "text"), scalar (.ofText node.text))]
      = .ok node := by
  obtain ⟨⟩ := node
  have hscalar (s : String) : (scalar (.ofText s)).isAgain = false := rfl
  simp only [fields, checkEntry_ofText _ hattrs, checkEntry_ofText _ hchildren,
    checkEntry_ofText _ (hscalar _), asFieldName_ofText, asText_ofText,
    attrs_ok, children_ok, bind, Except.bind]

end Unfolding

namespace XmlNode

/-! ## An element as data -/

/-- Induction over elements: what holds of an element if it holds of its
children, holds of all. -/
@[induction_eliminator]
theorem byChildren {motive : XmlNode → Prop}
    (mk : ∀ name attrs children text, (∀ child ∈ children, motive child) →
      motive ⟨name, attrs, children, text⟩)
    (node : XmlNode) : motive node :=
  @XmlNode.rec motive (fun nodes => ∀ node ∈ nodes, motive node) mk nofun
    (fun _ _ hnode hrest => List.forall_mem_cons.mpr ⟨hnode, hrest⟩) node

theorem toJsonAll_eq_map (nodes : List XmlNode) :
    toJsonAll nodes = nodes.map toJson := by
  induction nodes with
  | nil => rfl
  | cons node rest ih => rw [toJsonAll, ih]; rfl

/-- The attributes of an element as data. -/
def attrsJson (attrs : KeyMap String) : Json :=
  .obj (attrs.entries.map fun attr => (attr.1, .str attr.2))

/-- The fields of an element, in order. -/
theorem toJson_eq (name : String) (attrs : KeyMap String)
    (children : List XmlNode) (text : String) :
    toJson ⟨name, attrs, children, text⟩
      = .obj [("attrs", attrsJson attrs),
        ("children", .arr (children.map toJson)), ("name", .str name),
        ("text", .str text)] := by
  rw [toJson, toJsonAll_eq_map]
  simp +decide only [Json.ofPairs, Fields.ofList, List.foldl_cons,
    List.foldl_nil, Fields.insert, attrsJson, if_true, if_false]

/-- An element is proper data if lists can be as long as those of its
children. -/
theorem proper_toJson (name : String) (attrs : KeyMap String)
    {children : List XmlNode} (text : String)
    (hlen : children.length ≤ Word.max64)
    (proper : ∀ child ∈ children, child.toJson.Proper) :
    (toJson ⟨name, attrs, children, text⟩).Proper := by
  have hattrs : (attrsJson attrs).Proper :=
    Json.everywhere_obj.mpr ⟨trivial, by
      simp only [List.forall_mem_map]
      exact fun attr _ => trivial⟩
  have hchildren : (Json.arr (children.map toJson)).Proper :=
    Json.everywhere_arr.mpr ⟨by simpa using hlen,
      List.forall_mem_map.mpr proper⟩
  rw [toJson_eq]
  refine Json.everywhere_obj.mpr ⟨trivial, ?_⟩
  simp only [List.forall_mem_cons]
  exact ⟨hattrs, hchildren, trivial, trivial, List.forall_mem_nil _⟩

end XmlNode

namespace Heap

/-! ## The fields of an element -/

/-- Attributes make no tables but their own. -/
theorem ofFields_texts (attrs : List (String × String)) (h : Heap) :
    h.ofFields (attrs.map fun attr => (attr.1, .str attr.2))
      = (attrs.map fun attr => (.ofText attr.1, .ofText attr.2), h) := by
  induction attrs with
  | nil => rfl
  | cons attr rest ih =>
    rw [List.map_cons, ofFields, ofJson]
    simp only [ih]
    rfl

theorem opens_attrs (attrs : KeyMap String) (h : Heap) :
    (h.ofJson (XmlNode.attrsJson attrs)).2.Opens
      (h.ofJson (XmlNode.attrsJson attrs)).1 (·.asAttributes = .ok attrs) := by
  have hkeys : (attrs.entries.map fun attr =>
        (Value.ofText attr.1, Value.ofText attr.2)).map Prod.fst
      = attrs.keys.map .ofText := by
    simp [KeyMap.keys]
  show (((h.ofFields _).2.alloc _).2).Opens (.table _) _
  rw [ofFields_texts]
  refine opens_object hkeys attrs.nodup_keys fun inner opener => ?_
  have hfilter : (attrs.entries.map fun attr =>
        (Value.ofText attr.1, Value.ofText attr.2)).filter
          (fun p => !p.2.isNil)
      = attrs.entries.map fun attr =>
        (Value.ofText attr.1, Value.ofText attr.2) := by
    rw [List.filter_eq_self]
    intro p hp
    obtain ⟨attr, -, rfl⟩ := List.mem_map.mp hp
    rfl
  rw [hfilter, List.map_map, Unfolding.asAttributes]
  simp only [Function.comp_def, opener.text, Unfolding.attributes_texts]
  exact congrArg Except.ok (KeyMap.ext (Fields.ofList_of_sorted attrs.sorted))

/-- The value is an element. -/
def Gives (h : Heap) (v : Value) (node : XmlNode) : Prop :=
  v.isNil = false ∧ h.Opens v (·.asNode = .ok node)

theorem asNodes_opened {h : Heap} {inner : Value → Unfolding}
    (opener : h.Opener inner) {values : List Value} {nodes : List XmlNode}
    (gives : List.Forall₂ h.Gives values nodes) :
    Unfolding.asNodes ((values.takeWhile fun v => !v.isNil).map inner)
      = .ok nodes := by
  induction gives with
  | nil => rfl
  | @cons v node values nodes hv _ ih =>
    obtain ⟨hnil, hopens⟩ := hv
    rw [List.takeWhile_cons_of_pos (by simp [hnil]), List.map_cons,
      Unfolding.asNodes, (opener _ _ hopens).2, ih]
    rfl

theorem opens_children {h : Heap} {values : List Value}
    {nodes : List XmlNode} (gives : List.Forall₂ h.Gives values nodes)
    (hlen : nodes.length ≤ Word.max64) :
    (h.alloc (Table.ofItems .array values)).2.Opens (.table h.tables.size)
      (·.asChildren = .ok nodes) := by
  have hlen' : values.length ≤ Word.max64 := gives.length_eq ▸ hlen
  refine opens_array hlen' fun inner opener others => ?_
  rw [Unfolding.asChildren, asNodes_opened opener gives]

/-- The values of elements in a row. -/
theorem ofItems_nodes {nodes : List XmlNode}
    (gives : ∀ node ∈ nodes, ∀ h : Heap,
      (h.ofJson node.toJson).2.Gives (h.ofJson node.toJson).1 node) :
    ∀ h : Heap, List.Forall₂ (h.ofItems (nodes.map (·.toJson))).2.Gives
      (h.ofItems (nodes.map (·.toJson))).1 nodes := by
  induction nodes with
  | nil => exact fun h => .nil
  | cons node rest ih =>
    intro h
    obtain ⟨hnode, hrest⟩ := List.forall_mem_cons.mp gives
    obtain ⟨hnil, hopens⟩ := hnode h
    rw [List.map_cons, ofItems]
    exact .cons ⟨hnil, hopens.mono (ofItems_extends _ _)⟩ (ih hrest _)

/-- **The value of an element gives the element**, if a list can hold its
children and those of every element in it. -/
theorem gives_node {node : XmlNode} (proper : node.toJson.Proper) :
    ∀ h : Heap, (h.ofJson node.toJson).2.Gives (h.ofJson node.toJson).1
      node := by
  induction node with
  | mk name attrs children text ih =>
    intro h
    rw [XmlNode.toJson_eq] at proper ⊢
    obtain ⟨-, hfields⟩ := Json.everywhere_obj.mp proper
    obtain ⟨hlen, hchildren⟩ := Json.everywhere_arr.mp
      (hfields _ (List.mem_cons_of_mem _ List.mem_cons_self))
    have hattrs := opens_attrs attrs h
    have hlen : children.length ≤ Word.max64 := by
      rw [← List.length_map XmlNode.toJson]
      exact hlen
    have hnodes := ofItems_nodes (fun child hchild => ih child hchild
      (hchildren _ (List.mem_map_of_mem hchild)))
      (h.ofJson (XmlNode.attrsJson attrs)).2
    refine ⟨rfl, ?_⟩
    have hkeys (a b c d : Value) : [(Value.ofText "attrs", a),
          (.ofText "children", b), (.ofText "name", c),
          (.ofText "text", d)].map Prod.fst
        = ["attrs", "children", "name", "text"].map .ofText := rfl
    refine opens_object (hkeys _ _ _ _) (by simp) fun inner opener => ?_
    obtain ⟨hagain, attrs_ok⟩ := opener _ _
      (hattrs.mono (ofJson_extends (.arr (children.map (·.toJson))) _))
    obtain ⟨hagain', children_ok⟩ := opener _ _ (opens_children hnodes hlen)
    have hread := Unfolding.fields_node ⟨name, attrs, children, text⟩ hagain
      hagain' attrs_ok children_ok
    rw [List.filter_eq_self.mpr]
    · simp only [List.map_cons, List.map_nil, opener.text, Unfolding.asNode]
      exact hread
    · simp [Value.ofText, Value.isNil]

end Heap

end ScriptHost
