/-
ScriptHost.Proofs.Xml.Tag — written tags read back.

A tag ends at the first `>` outside of a quotation, and `quoteAfter?` follows
the quotations through its characters. Values are written without quotes and
`>`, so it is up to the names whether a tag ends where its writer ended it
(`quoteAfter?_head`).

A tag is `Legible` if its names leave no quotation open and are delimited as
the reader expects them. Then its attributes read as the map that was written
(`attributes?_attrsChars`), and the tag gives its event (`markup?_start`,
`markup?_empty`, `markup?_close`). Names of letters, digits and four signs
(`IsName`) are always legible.
-/
import ScriptHost.Proofs.Data.KeyMap
import ScriptHost.Proofs.Xml.Escape
import ScriptHost.Proofs.Xml.Markup
import ScriptHost.Text.Alphabetic
import ScriptHost.Text.Numeric
import ScriptHost.Xml.Tree

namespace ScriptHost

namespace Xml

/-! ## Quotations -/

/-- The mark of the quotation that is open behind the characters, unless they
end the tag. -/
def quoteAfter? : Option Char → List Char → Option (Option Char)
  | quote, [] => some quote
  | some q, c :: cs => quoteAfter? (if c = q then none else some q) cs
  | none, c :: cs =>
    if c = '>' then none
    else quoteAfter? (if c = '"' ∨ c = '\'' then some c else none) cs

theorem quoteAfter?_append (quote : Option Char) (cs ds : List Char) :
    quoteAfter? quote (cs ++ ds)
      = (quoteAfter? quote cs).bind (quoteAfter? · ds) := by
  induction cs generalizing quote with
  | nil => rfl
  | cons c cs ih =>
    cases quote with
    | some q => exact ih _
    | none =>
      simp only [List.cons_append, quoteAfter?]
      split
      · rfl
      · exact ih _

section Quotation

variable {quote quote' : Option Char} {cs : List Char}

/-- The search for the end of a tag goes over the characters. -/
theorem cutTag?_append (h : quoteAfter? quote cs = some quote')
    (rest : List Char) :
    cutTag? quote (cs ++ rest)
      = (cutTag? quote' rest).map fun (front, tail) => (cs ++ front, tail) := by
  induction cs generalizing quote with
  | nil =>
    obtain rfl := Option.some.inj h
    simp
  | cons c cs ih =>
    cases quote with
    | some q =>
      have hcs : quoteAfter? (if c = q then none else some q) cs = some quote'
        := h
      simp only [List.cons_append, cutTag?, ih hcs, Option.map_map]
      rfl
    | none =>
      rw [quoteAfter?] at h
      split at h
      · cases h
      · next hend =>
        simp only [List.cons_append, cutTag?, if_neg hend, ih h,
          Option.map_map]
        rfl

/-- A tag that leaves no quotation open ends at its end. -/
theorem cutTag?_closed (h : quoteAfter? none cs = some none)
    (rest : List Char) :
    cutTag? none (cs ++ '>' :: rest) = some (cs, rest) := by
  rw [cutTag?_append h, cutTag?, if_pos rfl]
  simp

/-- What the reader takes for the inside of a tag leaves none open. -/
theorem closed_of_cutTag? {inside rest : List Char}
    (h : cutTag? quote cs = some (inside, rest)) :
    quoteAfter? quote inside = some none := by
  induction cs generalizing quote inside with
  | nil => cases h
  | cons c cs ih =>
    cases quote with
    | some q =>
      obtain ⟨⟨front, tail⟩, hcut, heq⟩ := Option.map_eq_some_iff.mp h
      cases heq
      have hfront : quoteAfter? (if c = q then none else some q) front
        = some none := ih hcut
      exact hfront
    | none =>
      simp only [cutTag?] at h
      split at h
      · cases h; rfl
      · next hend =>
        obtain ⟨⟨front, tail⟩, hcut, heq⟩ := Option.map_eq_some_iff.mp h
        cases heq
        rw [quoteAfter?, if_neg hend]
        exact ih hcut

end Quotation

/-! ## What does not change them -/

/-- Does the character count for where a tag ends? -/
def isTagMark (c : Char) : Bool := c = '>' || c = '"' || c = '\''

/-- If a quotation is open, it is one between quotes. -/
def IsQuote (quote : Option Char) : Prop := ∀ q ∈ quote, q = '"' ∨ q = '\''

theorem isQuote_none : IsQuote none := nofun

section IsQuote

variable {quote quote' : Option Char} {cs : List Char}

theorem IsQuote.after (isQuote : IsQuote quote)
    (h : quoteAfter? quote cs = some quote') : IsQuote quote' := by
  induction cs generalizing quote with
  | nil => exact Option.some.inj h ▸ isQuote
  | cons c cs ih =>
    cases quote with
    | some q =>
      refine ih ?_ h
      split
      · exact isQuote_none
      · exact isQuote
    | none =>
      rw [quoteAfter?] at h
      split at h
      · cases h
      · refine ih ?_ h
        split
        · next hc => rintro q ⟨⟩; exact hc
        · exact isQuote_none

/-- Characters that are no marks change nothing. -/
theorem IsQuote.unmarked (isQuote : IsQuote quote)
    (h : ∀ c ∈ cs, isTagMark c = false) :
    quoteAfter? quote cs = some quote := by
  induction cs with
  | nil => cases quote <;> rfl
  | cons c cs ih =>
    obtain ⟨hc, hcs⟩ := List.forall_mem_cons.mp h
    simp only [isTagMark, Bool.or_eq_false_iff, decide_eq_false_iff_not] at hc
    obtain ⟨⟨hend, hdouble⟩, hsingle⟩ := hc
    cases quote with
    | some q =>
      have hne : c ≠ q := by
        rcases isQuote q rfl with rfl | rfl
        · exact hdouble
        · exact hsingle
      rw [quoteAfter?, if_neg hne]
      exact ih hcs
    | none =>
      rw [quoteAfter?, if_neg hend, if_neg (not_or.mpr ⟨hdouble, hsingle⟩)]
      exact ih hcs

/-- Nor do such characters between quotes: whether the quotes open a
quotation or close one, they are two. -/
theorem IsQuote.quoted (isQuote : IsQuote quote)
    (h : ∀ c ∈ cs, isTagMark c = false) :
    quoteAfter? quote ('"' :: (cs ++ ['"'])) = some quote := by
  have hdouble : IsQuote (some '"') := by
    rintro q ⟨⟩
    exact .inl rfl
  rw [← List.singleton_append, quoteAfter?_append]
  cases quote with
  | none =>
    show quoteAfter? (some '"') (cs ++ ['"']) = _
    rw [quoteAfter?_append, hdouble.unmarked h]
    rfl
  | some q =>
    rcases isQuote q rfl with rfl | rfl
    · show quoteAfter? none (cs ++ ['"']) = _
      rw [quoteAfter?_append, isQuote_none.unmarked h]
      rfl
    · show quoteAfter? (some '\'') (cs ++ ['"']) = _
      rw [quoteAfter?_append, isQuote.unmarked h]
      rfl

theorem not_isTagMark_escape (cs : List Char) :
    ∀ c ∈ escape cs, isTagMark c = false := fun c hc => by
  obtain ⟨-, hend, hdouble, hsingle⟩ := ne_of_mem_escape hc
  simp [isTagMark, hend, hdouble, hsingle]

/-- Of an attribute, only the name counts. -/
theorem IsQuote.attr (isQuote : IsQuote quote) (attr : String × String) :
    quoteAfter? quote (XmlNode.attrChars attr)
      = quoteAfter? quote attr.1.toList := by
  have hchars : XmlNode.attrChars attr = [' '] ++ (attr.1.toList
      ++ (['='] ++ ('"' :: (escape attr.2.toList ++ ['"'])))) := by
    simp [XmlNode.attrChars]
  have single {quote : Option Char} (isQuote : IsQuote quote) {c : Char}
      (hc : isTagMark c = false) : quoteAfter? quote [c] = some quote :=
    isQuote.unmarked (List.forall_mem_singleton.mpr hc)
  rw [hchars, quoteAfter?_append, single isQuote rfl, Option.bind_some,
    quoteAfter?_append]
  cases hkey : quoteAfter? quote attr.1.toList with
  | none => rfl
  | some quote' =>
    have isQuote' := isQuote.after hkey
    rw [Option.bind_some, quoteAfter?_append, single isQuote' rfl,
      Option.bind_some, isQuote'.quoted (not_isTagMark_escape _)]

theorem IsQuote.attrs (isQuote : IsQuote quote) (fields : Fields String) :
    quoteAfter? quote (fields.flatMap XmlNode.attrChars)
      = quoteAfter? quote (fields.flatMap fun attr => attr.1.toList) := by
  induction fields generalizing quote with
  | nil => rfl
  | cons attr fields ih =>
    rw [List.flatMap_cons, List.flatMap_cons, quoteAfter?_append,
      quoteAfter?_append, isQuote.attr]
    cases hkey : quoteAfter? quote attr.1.toList with
    | none => rfl
    | some quote' => exact ih (isQuote.after hkey)

end IsQuote

end Xml

/-- The names in a tag, one behind the other. -/
def XmlNode.names (name : String) (attrs : KeyMap String) : List Char :=
  name.toList ++ attrs.entries.flatMap fun attr => attr.1.toList

namespace Xml

/-- **Of a tag, only the names count.** -/
theorem quoteAfter?_head (name : String) (attrs : KeyMap String) :
    quoteAfter? none (XmlNode.headChars name attrs)
      = quoteAfter? none (XmlNode.names name attrs) := by
  rw [XmlNode.headChars, XmlNode.names, quoteAfter?_append,
    quoteAfter?_append]
  cases hname : quoteAfter? none name.toList with
  | none => rfl
  | some quote => exact (isQuote_none.after hname).attrs attrs.entries

/-! ## Names -/

/-- The characters can be read as the name of an element: no other markup
begins with them, and no blank ends them. -/
structure IsTagName (cs : List Char) : Prop where
  ne : cs ≠ []
  first : ∀ c ∈ cs.head?, isSign c = false
  solid : ∀ c ∈ cs, isSpace c = false

/-- The characters can be read as the name of an attribute. -/
def IsAttrName : List Char → Prop
  | [] => False
  | first :: rest =>
    isSpace first = false ∧ ∀ c ∈ rest, endsAttrName c = false

/-- A letter or digit of any script, or one of four signs. -/
def isNamePart (c : Char) : Bool :=
  isAlphabetic c || isNumeric c || ['_', '-', '.', ':'].contains c

/-- A row of letters, digits and the four signs, with at least one of
them. -/
def IsName (cs : List Char) : Prop :=
  cs ≠ [] ∧ ∀ c ∈ cs, isNamePart c = true

-- Only the characters of the name are looked at.
instance (cs : List Char) : Decidable (IsName cs) :=
  @instDecidableAnd _ _ inferInstance (List.decidableBAll _ cs)

section Name

variable {cs : List Char}

/-- What is no part of names is in no name. -/
theorem IsName.ne (name : IsName cs) {c : Char} (hc : c ∈ cs) (mark : Char)
    (h : isNamePart mark = false) : c ≠ mark := by
  rintro rfl
  rw [name.2 c hc] at h
  cases h

/-- No character of a name is a blank. -/
theorem IsName.not_space (name : IsName cs) : ∀ c ∈ cs, isSpace c = false :=
  fun c hc => by
    simp [isSpace, name.ne hc ' ' rfl, name.ne hc '\t' rfl,
      name.ne hc '\n' rfl, name.ne hc '\r' rfl]

theorem IsName.not_isTagMark (name : IsName cs) :
    ∀ c ∈ cs, isTagMark c = false := fun c hc => by
  simp [isTagMark, name.ne hc '>' rfl, name.ne hc '"' rfl,
    name.ne hc '\'' rfl]

theorem IsName.isTagName (name : IsName cs) : IsTagName cs where
  ne := name.1
  first c hc := by
    have hmem := List.mem_of_mem_head? hc
    simp [isSign, name.ne hmem '!' rfl, name.ne hmem '/' rfl,
      name.ne hmem '?' rfl]
  solid := name.not_space

theorem IsName.isAttrName (name : IsName cs) : IsAttrName cs := by
  obtain ⟨first, rest, rfl⟩ := List.exists_cons_of_ne_nil name.1
  refine ⟨name.not_space first List.mem_cons_self, fun c hc => ?_⟩
  have hmem := List.mem_cons_of_mem first hc
  simp [endsAttrName, name.ne hmem '=' rfl, name.not_space c hmem]

end Name

/-- A tag with the name and the attributes can be read: its names can, and
leave no quotation open. -/
structure Legible (name : String) (attrs : KeyMap String) : Prop where
  tagName : IsTagName name.toList
  attrNames : ∀ attr ∈ attrs.entries, IsAttrName attr.1.toList
  closed : quoteAfter? none (XmlNode.names name attrs) = some none

theorem legible_of_isName {name : String} {attrs : KeyMap String}
    (isName : IsName name.toList)
    (names : ∀ attr ∈ attrs.entries, IsName attr.1.toList) :
    Legible name attrs where
  tagName := isName.isTagName
  attrNames attr hattr := (names attr hattr).isAttrName
  closed := by
    refine isQuote_none.unmarked fun c hc => ?_
    rcases List.mem_append.mp hc with hc | hc
    · exact isName.not_isTagMark c hc
    · obtain ⟨attr, hattr, hc⟩ := List.mem_flatMap.mp hc
      exact (names attr hattr).not_isTagMark c hc

/-! ## Attributes -/

/-- The attributes of a tag as they are written. -/
def attrsChars (attrs : KeyMap String) : List Char :=
  attrs.entries.flatMap XmlNode.attrChars

/-- What stands in front of a mark is cut off there. -/
theorem cut?_mark {mark : Char} {cs : List Char} (h : ∀ c ∈ cs, c ≠ mark)
    (rest : List Char) :
    cut? [mark] (cs ++ mark :: rest) = some (cs, rest) := by
  induction cs with
  | nil => simp [cut?, stripFront?]
  | cons c cs ih =>
    obtain ⟨hc, hcs⟩ := List.forall_mem_cons.mp h
    simp [cut?, stripFront?, Ne.symm hc, ih hcs]

/-- An attribute is taken off the front. -/
theorem attribute?_written (first : Char) {key : List Char}
    (isKey : ∀ c ∈ key, endsAttrName c = false) (value rest : List Char) :
    attribute? first (key ++ '=' :: '"' :: (escape value ++ '"' :: rest))
      = some ((first :: key, escape value), rest) := by
  have hinside : ∀ c ∈ key, (!endsAttrName c) = true := fun c hc => by
    rw [isKey c hc]
    rfl
  have hequals : (!endsAttrName '=') = false := by decide
  have hcut := cut?_mark (not_quote_escape value) rest
  rw [attribute?, takeWhile_mark hinside hequals,
    dropWhile_mark hinside hequals]
  simp [isSpace, hcut]

/-- A written attribute is read unless its name is there already. -/
theorem attributesFrom?_attrChars (fuel : Nat) (done : KeyMap String)
    {attr : String × String} (isKey : IsAttrName attr.1.toList)
    (rest : List Char) :
    attributesFrom? (fuel + 1) done (XmlNode.attrChars attr ++ rest)
      = if done.contains attr.1 then none
        else attributesFrom? fuel (done.insert attr.1 attr.2) rest := by
  obtain ⟨key, value⟩ := attr
  have isAttrName : IsAttrName key.toList := isKey
  cases hkey : key.toList with
  | nil => rw [hkey] at isAttrName; exact isAttrName.elim
  | cons first cs =>
    rw [hkey] at isAttrName
    obtain ⟨hfirst, hcs⟩ := isAttrName
    have hback : String.ofList (first :: cs) = key := by
      rw [← hkey, String.ofList_toList]
    have hblank : isSpace ' ' = true := rfl
    have hread := attribute?_written first hcs value.toList rest
    simp only [XmlNode.attrChars, hkey, List.cons_append, List.append_assoc,
      List.nil_append, attributesFrom?,
      List.dropWhile_cons_of_pos hblank,
      List.dropWhile_cons_of_neg (Bool.not_eq_true _ ▸ hfirst), hread]
    simp [hback, unescape?_escape]

/-- Attributes in order behind those that were read are added to them. -/
theorem attributesFrom?_fields {fields : Fields String}
    (names : ∀ attr ∈ fields, IsAttrName attr.1.toList) {fuel : Nat}
    (hfuel : fields.length < fuel) {done map : KeyMap String}
    (hmap : map.entries = done.entries ++ fields) :
    attributesFrom? fuel done (fields.flatMap XmlNode.attrChars)
      = some map := by
  obtain ⟨fuel, rfl⟩ : ∃ n, fuel = n + 1 := ⟨fuel - 1, by omega⟩
  induction fields generalizing fuel done with
  | nil =>
    rw [List.append_nil] at hmap
    rw [List.flatMap_nil, attributesFrom?, KeyMap.ext hmap]
    rfl
  | cons attr fields ih =>
    obtain ⟨hname, hnames⟩ := List.forall_mem_cons.mp names
    have hbefore : ∀ f ∈ done.entries, f.1 < attr.1 := fun f hf => by
      have hsorted := map.sorted
      rw [hmap] at hsorted
      exact (List.pairwise_append.mp hsorted).2.2 f hf _ List.mem_cons_self
    have hnew : done.contains attr.1 = false := by
      rw [KeyMap.contains, KeyMap.get?, Fields.find?_of_ne fun f hf =>
        String.ne_of_lt (hbefore f hf)]
      rfl
    have hinsert : map.entries
        = (done.insert attr.1 attr.2).entries ++ fields := by
      show _ = done.entries.insert attr.1 attr.2 ++ fields
      rw [hmap, Fields.insert_last attr.2 hbefore, List.append_assoc]
      rfl
    obtain ⟨fuel, rfl⟩ : ∃ n, fuel = n + 1 :=
      ⟨fuel - 1, by rw [List.length_cons] at hfuel; omega⟩
    rw [List.flatMap_cons, attributesFrom?_attrChars _ _ hname, hnew,
      if_neg Bool.false_ne_true,
      ih hnames hinsert fuel (Nat.lt_of_succ_lt_succ hfuel)]

theorem length_le_attrsChars (fields : Fields String) :
    fields.length ≤ (fields.flatMap XmlNode.attrChars).length := by
  induction fields with
  | nil => exact Nat.le_refl 0
  | cons attr fields ih =>
    rw [List.flatMap_cons, List.length_append, XmlNode.attrChars,
      List.length_cons, List.length_cons]
    omega

/-- **Written attributes read back.** -/
theorem attributes?_attrsChars {attrs : KeyMap String}
    (names : ∀ attr ∈ attrs.entries, IsAttrName attr.1.toList) :
    attributes? (attrsChars attrs) = some attrs :=
  attributesFrom?_fields names
    (Nat.lt_succ_of_le (length_le_attrsChars attrs.entries)) rfl

/-! ## Whole tags -/

/-- Markup that begins with no sign is the tag of an element. -/
theorem markup?_tag {cs : List Char} (ne : cs ≠ [])
    (first : ∀ c ∈ cs.head?, isSign c = false) (opened : List (List Char)) :
    markup? opened cs = (cutTag? none cs).map
      fun (inside, rest) => startTag opened inside rest := by
  obtain ⟨c, cs, rfl⟩ := List.exists_cons_of_ne_nil ne
  have hc : isSign c = false := first c rfl
  simp only [isSign, Bool.or_eq_false_iff, decide_eq_false_iff_not] at hc
  obtain ⟨⟨hbang, hslash⟩, hquestion⟩ := hc
  rw [markup?.eq_def]
  split <;> simp_all

/-- A closing tag fits the element with its name. -/
theorem markup?_close {name : List Char} (isName : IsTagName name)
    (closed : quoteAfter? none name = some none) (opened : List (List Char))
    (rest : List Char) :
    markup? (name :: opened) ('/' :: (name ++ '>' :: rest))
      = some (.close, ⟨opened, rest⟩) := by
  have hname : closingName name = name := by
    have hend : trimEnd name = name := by
      have bare : Bare name :=
        ⟨fun c hc => isName.solid c (List.mem_of_mem_head? hc),
          fun c hc => isName.solid c (List.mem_of_getLast? hc)⟩
      exact bare.trimEnd
    simp [closingName, hend]
  rw [markup?, cutTag?_closed closed]
  show endTag? (name :: opened) name rest = _
  rw [endTag?, hname, if_pos rfl]

section Tag

variable {name : String} {attrs : KeyMap String}

/-- The name in a tag ends where its attributes begin. -/
theorem splitName_head (attrs : KeyMap String)
    (solid : ∀ c ∈ name.toList, isSpace c = false) :
    splitName (XmlNode.headChars name attrs)
      = (name.toList, attrsChars attrs) := by
  have hname : ∀ c ∈ name.toList, (!isSpace c) = true := fun c hc => by
    rw [solid c hc]; rfl
  have hblank : (!isSpace ' ') = false := rfl
  rw [splitName, XmlNode.headChars, attrsChars]
  cases attrs.entries with
  | nil =>
    rw [List.flatMap_nil, List.append_nil, List.takeWhile_eq_self_iff.mpr hname,
      List.dropWhile_eq_nil_iff.mpr hname]
  | cons attr fields =>
    rw [List.flatMap_cons, XmlNode.attrChars, List.cons_append,
      takeWhile_mark hname hblank, dropWhile_mark hname hblank]

/-- A tag does not end with a slash before its writer adds one, if its last
name does not. -/
theorem getLast?_head
    (slash : attrs.entries = [] → name.toList.getLast? ≠ some '/') :
    (XmlNode.headChars name attrs).getLast? ≠ some '/' := by
  rw [XmlNode.headChars]
  rcases List.eq_nil_or_concat attrs.entries with h | ⟨front, attr, h⟩
  · rw [h, List.flatMap_nil, List.append_nil]
    exact slash h
  · have hquote : (XmlNode.attrChars attr).getLast? = some '"' := by
      rw [XmlNode.attrChars]
      exact List.getLast?_concat
        (l := ' ' :: (attr.1.toList ++ '=' :: '"' :: escape attr.2.toList))
    rw [h, List.concat_eq_append, List.flatMap_append, List.flatMap_singleton,
      ← List.append_assoc, List.getLast?_append, hquote]
    simp

/-- The tag as a row of characters begins with its name. -/
theorem Legible.first (legible : Legible name attrs) (rest : List Char) :
    XmlNode.headChars name attrs ++ rest ≠ []
      ∧ ∀ c ∈ (XmlNode.headChars name attrs ++ rest).head?,
        isSign c = false := by
  obtain ⟨c, cs, hname⟩ := List.exists_cons_of_ne_nil legible.tagName.ne
  have hfirst := legible.tagName.first
  rw [XmlNode.headChars, hname]
  rw [hname] at hfirst
  exact ⟨List.cons_ne_nil _ _, hfirst⟩

/-- **The tag of an element that is just this tag.** -/
theorem markup?_empty (legible : Legible name attrs)
    (opened : List (List Char)) (rest : List Char) :
    markup? opened (XmlNode.headChars name attrs ++ '/' :: '>' :: rest)
      = some (.empty name.toList (attrsChars attrs), ⟨opened, rest⟩) := by
  obtain ⟨ne, first⟩ := legible.first ('/' :: '>' :: rest)
  have closed : quoteAfter? none (XmlNode.headChars name attrs ++ ['/'])
      = some none := by
    rw [quoteAfter?_append, quoteAfter?_head, legible.closed]
    rfl
  have hcut := cutTag?_closed closed rest
  rw [List.append_assoc, List.singleton_append] at hcut
  rw [markup?_tag ne first, hcut]
  show some (startTag opened (XmlNode.headChars name attrs ++ ['/']) rest) = _
  rw [startTag, List.reverse_concat]
  simp only [List.reverse_reverse, splitName_head attrs legible.tagName.solid]

/-- **The tag that opens an element.** -/
theorem markup?_start (legible : Legible name attrs)
    (slash : attrs.entries = [] → name.toList.getLast? ≠ some '/')
    (opened : List (List Char)) (rest : List Char) :
    markup? opened (XmlNode.headChars name attrs ++ '>' :: rest)
      = some (.start name.toList (attrsChars attrs),
        ⟨name.toList :: opened, rest⟩) := by
  obtain ⟨ne, first⟩ := legible.first ('>' :: rest)
  have closed : quoteAfter? none (XmlNode.headChars name attrs)
      = some none := (quoteAfter?_head name attrs).trans legible.closed
  rw [markup?_tag ne first, cutTag?_closed closed]
  show some (startTag opened (XmlNode.headChars name attrs) rest) = _
  rw [startTag]
  split
  · next front heq =>
    refine absurd ?_ (getLast?_head slash)
    rw [← List.head?_reverse, heq]
    rfl
  · simp only [splitName_head attrs legible.tagName.solid]

end Tag

end Xml

end ScriptHost
