/-
ScriptHost.Xml.Event — XML text as a row of events.

`Xml.events` cuts a document into the tags, the text and the other markup
that it consists of. Each stretch of text between two pieces of markup loses
the blanks at both ends, and one of blanks alone gives no event. A closing
tag must fit the element that was opened last. Text that is no markup ends
the row with `Event.malformed`.
-/

namespace ScriptHost.Xml

/-- A piece of a document. -/
inductive Event where
  /-- A tag that opens an element: its name, and its attributes as they are
  written. -/
  | start (name attrs : List Char)
  /-- A tag that is a whole element. -/
  | empty (name attrs : List Char)
  /-- The tag that closes the element opened last. -/
  | close
  /-- Text with references. -/
  | text (raw : List Char)
  /-- Text as it is. -/
  | cdata (text : List Char)
  /-- A comment, an instruction or a declaration. -/
  | other
  /-- The rest is no XML. -/
  | malformed
  deriving DecidableEq, Repr

/-! ## Scanning -/

/-- A blank. -/
def isSpace (c : Char) : Bool := c = ' ' || c = '\t' || c = '\n' || c = '\r'

/-- Text without the blanks at its end. -/
def trimEnd (cs : List Char) : List Char :=
  (cs.reverse.dropWhile isSpace).reverse

/-- The rest behind a row of characters at the front. -/
def stripFront? : List Char → List Char → Option (List Char)
  | [], cs => some cs
  | _, [] => none
  | p :: ps, c :: cs => if p = c then stripFront? ps cs else none

/-- What stands in front of the first place where `mark` stands, and what
stands behind it. -/
def cut? (mark : List Char) : List Char → Option (List Char × List Char)
  | [] => (stripFront? mark []).map ([], ·)
  | c :: rest =>
    match stripFront? mark (c :: rest) with
    | some tail => some ([], tail)
    | none => (cut? mark rest).map fun (front, tail) => (c :: front, tail)

/-- The inside of a tag up to its end, where marks between quotes do not
count. -/
def cutTag? : Option Char → List Char → Option (List Char × List Char)
  | _, [] => none
  | quote, c :: rest =>
    let go (quote : Option Char) :=
      (cutTag? quote rest).map fun (front, tail) => (c :: front, tail)
    match quote with
    | some q => go (if c = q then none else some q)
    | none =>
      if c = '>' then some ([], rest)
      else go (if c = '"' ∨ c = '\'' then some c else none)

/-- The inside of a declaration up to its end, where inner marks come in
pairs. -/
def cutNested? : Nat → List Char → Option (List Char × List Char)
  | _, [] => none
  | depth, c :: rest =>
    let go (depth : Nat) :=
      (cutNested? depth rest).map fun (front, tail) => (c :: front, tail)
    if c = '<' then go (depth + 1)
    else if c = '>' then
      match depth with
      | 0 => some ([], rest)
      | depth + 1 => go depth
    else go depth

/-- Splits the inside of a tag into name and attributes. -/
def splitName (cs : List Char) : List Char × List Char :=
  (cs.takeWhile fun c => !isSpace c, cs.dropWhile fun c => !isSpace c)

/-! ## Events -/

/-- The names of the open elements, the last opened first, and the text that
is left. -/
structure Place where
  opened : List (List Char)
  rest : List Char

/-- The event of an opening tag. -/
def startTag (opened : List (List Char)) (inside rest : List Char) :
    Event × Place :=
  match inside.reverse with
  | '/' :: front =>
    let (name, attrs) := splitName front.reverse
    (.empty name attrs, ⟨opened, rest⟩)
  | _ =>
    let (name, attrs) := splitName inside
    (.start name attrs, ⟨name :: opened, rest⟩)

/-- The name in a closing tag. -/
def closingName (inside : List Char) : List Char :=
  let name := trimEnd inside
  if name.isEmpty then inside else name

/-- The event of a closing tag. -/
def endTag? (opened : List (List Char)) (inside rest : List Char) :
    Option (Event × Place) :=
  match opened with
  | name :: outer =>
    if closingName inside = name then some (.close, ⟨outer, rest⟩) else none
  | [] => none

/-- The event of markup behind its first two characters `<!`. -/
def declaration? (opened : List (List Char)) (cs : List Char) :
    Option (Event × Place) :=
  match stripFront? "--".toList cs, stripFront? "[CDATA[".toList cs with
  | some inside, _ =>
    (cut? "-->".toList inside).map fun (_, rest) => (.other, ⟨opened, rest⟩)
  | none, some inside =>
    (cut? "]]>".toList inside).map fun (text, rest) =>
      (.cdata text, ⟨opened, rest⟩)
  | none, none => do
    let word := "DOCTYPE".toList
    if (cs.take word.length).map Char.toUpper ≠ word then none
    else
      let (inside, rest) ← cutNested? 0 (cs.drop word.length)
      if inside.all isSpace then none else pure (.other, ⟨opened, rest⟩)

/-- The event of markup behind its first character `<`. -/
def markup? (opened : List (List Char)) : List Char →
    Option (Event × Place)
  | [] => none
  | '!' :: cs => declaration? opened cs
  | '/' :: cs => do
    let (inside, rest) ← cutTag? none cs
    endTag? opened inside rest
  | '?' :: '>' :: _ => none
  | '?' :: cs =>
    (cut? "?>".toList cs).map fun (_, rest) => (.other, ⟨opened, rest⟩)
  | cs =>
    (cutTag? none cs).map fun (inside, rest) => startTag opened inside rest

/-- Is the character text? -/
def isText (c : Char) : Bool := c ≠ '<'

/-- The events from a place on, at most `fuel` of them. -/
def eventsFrom : Nat → Place → List Event
  | 0, _ => []
  | fuel + 1, place =>
    match place.rest.dropWhile isSpace with
    | [] => []
    | '<' :: cs =>
      match markup? place.opened cs with
      | none => [.malformed]
      | some (event, place) => event :: eventsFrom fuel place
    | cs =>
      .text (trimEnd (cs.takeWhile isText))
        :: eventsFrom fuel ⟨place.opened, cs.dropWhile isText⟩

/-- The events of a document. -/
def events (document : List Char) : List Event :=
  eventsFrom (document.length + 1) ⟨[], document⟩

end ScriptHost.Xml
