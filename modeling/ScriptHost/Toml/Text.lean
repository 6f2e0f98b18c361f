/-
ScriptHost.Toml.Text — configuration files as text.

`Toml.parse?` reads a file: statements line by line, each a key with its
value or a header that says which table the next keys belong to. Values may
be nested up to a limit.
-/
import ScriptHost.Toml.Scalar
import ScriptHost.Toml.Tree

namespace ScriptHost.Toml

/-! ## Values -/

/-- The items of an array, at most `fuel` of them, behind its bracket or a
comma. -/
def items? (item : Reads Toml) : Nat → Reads (List Toml)
  | 0, _ => none
  | fuel + 1, cs =>
    match skipBlank cs with
    | ']' :: rest => some ([], rest)
    | cs => do
      let (t, rest) ← item cs
      match skipBlank rest with
      | ']' :: rest => pure ([t], rest)
      | ',' :: rest =>
        let (more, rest) ← items? item fuel rest
        pure (t :: more, rest)
      | _ => none

/-- A key with its value. -/
def pair? (item : Reads Toml) : Reads (List String × Toml) := fun cs => do
  let (key, rest) ← key? cs
  match rest with
  | '=' :: rest =>
    let (t, rest) ← item (skipSpaces rest)
    pure ((key, t), skipSpaces rest)
  | _ => none

/-- The fields of a table on one line, at most `fuel` of them, added to
those in front. -/
def fields? (item : Reads Toml) : Nat → Branch → Reads Branch
  | 0, _, _ => none
  | fuel + 1, done, cs => do
    let ((key, t), rest) ← pair? item cs
    let done ← Tree.place? (.value t) key done
    match rest with
    | '\x7d' :: rest => pure (done, rest)
    | ',' :: rest => fields? item fuel done rest
    | _ => none

/-- A value, nested less deep than `depth`. -/
def value? : Nat → Reads Toml
  | 0, _ => none
  | depth + 1, cs =>
    match cs with
    | '[' :: rest =>
      if depth = 0 then none
      else (items? (value? depth) cs.length rest).map fun (items, rest) =>
        (arr items, rest)
    | '\x7b' :: rest =>
      if depth = 0 then none
      else match skipSpaces rest with
        | '\x7d' :: rest => some (table [], rest)
        | rest =>
          (fields? (value? depth) cs.length [] rest).map
            fun (fields, rest) => (table (Tree.fieldsToToml fields), rest)
    | _ => scalar? cs

/-! ## Statements -/

/-- A file as far as it has been read: its tables, and the one that the
last header opened. -/
structure Draft where
  fields : Branch := []
  header : List String := []

/-- The names of a header, up to its closing brackets. -/
def headerNames? (double : Bool) (cs : List Char) :
    Option (List String × List Char) := do
  let (names, rest) ← key? cs
  match double, rest with
  | false, ']' :: rest => pure (names, rest)
  | true, ']' :: ']' :: rest => pure (names, rest)
  | _, _ => none

/-- Takes the statement at the start of a line. -/
def statement? (draft : Draft) (cs : List Char) :
    Option (Draft × List Char) :=
  match cs with
  | '[' :: '[' :: rest => do
    let (names, rest) ← headerNames? true rest
    let fields ← Tree.follow? (Tree.openItem? (names.getLastD ""))
      names.dropLast draft.fields
    pure (⟨fields, names⟩, rest)
  | '[' :: rest => do
    let (names, rest) ← headerNames? false rest
    let fields ← Tree.follow? (Tree.openTable? (names.getLastD ""))
      names.dropLast draft.fields
    pure (⟨fields, names⟩, rest)
  | _ => do
    let ((key, t), rest) ← pair? (value? depthLimit) cs
    let fields ← Tree.write? draft.header key t draft.fields
    pure ({ draft with fields := fields }, rest)

/-- Takes the end of a line behind a statement, or the end of the text. -/
def lineEnd? (cs : List Char) : Option (List Char) :=
  match skipComment (skipSpaces cs) with
  | [] => some []
  | cs => newLine? cs

/-- Reads statements up to the end of the text, at most `fuel` of them. -/
def statements? : Nat → Draft → List Char → Option Draft
  | 0, _, _ => none
  | fuel + 1, draft, cs =>
    match skipBlank cs with
    | [] => some draft
    | cs => do
      let (draft, rest) ← statement? draft cs
      statements? fuel draft (← lineEnd? rest)

/-- Leaves out the mark that may stand at the start of a file. -/
def skipMark : List Char → List Char
  | '\uFEFF' :: rest => rest
  | cs => cs

/-- Reads a file: the fields of its root table. -/
def parse? (s : String) : Option (List (String × Toml)) :=
  let cs := skipMark s.toList
  (statements? (cs.length + 1) {} cs).map fun draft =>
    Tree.fieldsToToml draft.fields

end ScriptHost.Toml
