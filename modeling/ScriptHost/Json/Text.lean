/-
ScriptHost.Json.Text — JSON values as text, and text as values.

`tokens` lists the words of a value, `render` joins them without blanks.
`ofTokens?` reads words back with a stack of open arrays and objects, one
word at a time; a value may lie inside at most `depthLimit` of them, and of
two fields with one name the later one counts. `pretty` writes a value over
several lines.
-/
import ScriptHost.Json.Token

namespace ScriptHost.Json

/-! ## Writing -/

mutual
/-- The words of a value. -/
def tokens : Json → List Token
  | null => [.null]
  | bool b => [.bool b]
  | int i => [.int i]
  | float x => [.float x]
  | str s => [.str s]
  | arr items => .openArr :: (itemTokens items ++ [.closeArr])
  | obj fields => .openObj :: (fieldTokens fields ++ [.closeObj])

/-- The words of the items of an array, commas between them. -/
def itemTokens : List Json → List Token
  | [] => []
  | [j] => tokens j
  | j :: rest => tokens j ++ .comma :: itemTokens rest

/-- The words of the fields of an object, commas between them. -/
def fieldTokens : List (String × Json) → List Token
  | [] => []
  | [(k, j)] => .str k :: .colon :: tokens j
  | (k, j) :: rest => .str k :: .colon :: (tokens j ++ .comma :: fieldTokens rest)
end

/-- The text of a value, without blanks. -/
def render (j : Json) : String :=
  String.ofList ((tokens j).flatMap Token.chars)

/-! ## Reading -/

/-- How many arrays and objects may be open at once. -/
def depthLimit : Nat := 127

/-- An array or object that is still open. -/
inductive Frame where
  /-- An array, with its items so far, last first. -/
  | array (done : List Json)
  /-- An object, with its fields so far and the name of the next one. -/
  | object (done : Fields Json) (key : String)

/-- What may come next. -/
inductive Phase where
  /-- A value. -/
  | value
  /-- The first item of an array, or its end. -/
  | firstItem
  /-- The first name of an object, or its end. -/
  | firstKey
  /-- A further name of an object. -/
  | nextKey
  /-- The colon behind a name. -/
  | colon
  /-- A value has just ended. -/
  | behind (j : Json)

/-- How far the reader has come. -/
structure Reader where
  stack : List Frame
  phase : Phase

namespace Reader

/-- A complete value has been read. -/
def done (r : Reader) (j : Json) : Reader := { r with phase := .behind j }

/-- Opens an array or object, unless too many are open. -/
def open? (limit : Nat) (r : Reader) (frame : Frame) (phase : Phase) :
    Option Reader :=
  if r.stack.length < limit then some ⟨frame :: r.stack, phase⟩ else none

/-- A word where a value may come. -/
def value? (limit : Nat) (r : Reader) : Token → Option Reader
  | .null => some (r.done null)
  | .bool b => some (r.done (bool b))
  | .int i => some (r.done (int i))
  | .float x => some (r.done (float x))
  | .str s => some (r.done (str s))
  | .openArr => r.open? limit (.array []) .firstItem
  | .openObj => r.open? limit (.object [] "") .firstKey
  | _ => none

/-- A name, where one may come. -/
def key? (r : Reader) (s : String) : Option Reader :=
  match r.stack with
  | .object fields _ :: rest => some ⟨.object fields s :: rest, .colon⟩
  | _ => none

/-- A word behind a complete value. -/
def behind? (r : Reader) (j : Json) (token : Token) : Option Reader :=
  match r.stack, token with
  | .array items :: rest, .comma => some ⟨.array (j :: items) :: rest, .value⟩
  | .array items :: rest, .closeArr =>
    some ⟨rest, .behind (arr (j :: items).reverse)⟩
  | .object fields k :: rest, .comma =>
    some ⟨.object (fields.insert k j) k :: rest, .nextKey⟩
  | .object fields k :: rest, .closeObj =>
    some ⟨rest, .behind (obj (fields.insert k j))⟩
  | _, _ => none

/-- Reads one word. -/
def step? (limit : Nat) (r : Reader) (token : Token) : Option Reader :=
  match r.phase with
  | .value => r.value? limit token
  | .firstItem =>
    match token, r.stack with
    | .closeArr, _ :: rest => some ⟨rest, .behind (arr [])⟩
    | _, _ => r.value? limit token
  | .firstKey =>
    match token, r.stack with
    | .closeObj, _ :: rest => some ⟨rest, .behind (obj [])⟩
    | .str s, _ => r.key? s
    | _, _ => none
  | .nextKey =>
    match token with
    | .str s => r.key? s
    | _ => none
  | .colon => if token = .colon then some { r with phase := .value } else none
  | .behind j => r.behind? j token

end Reader

/-- Reads words as one value, with at most `limit` arrays and objects open
at once. -/
def ofTokensWithin? (limit : Nat) (ts : List Token) : Option Json :=
  match ts.foldlM (Reader.step? limit) ⟨[], .value⟩ with
  | some ⟨[], .behind j⟩ => some j
  | _ => none

/-- Reads words as one value. -/
def ofTokens? (ts : List Token) : Option Json := ofTokensWithin? depthLimit ts

/-- Reads text as one value. -/
def parse? (text : String) : Option Json :=
  (Token.scan? text.toList).bind ofTokens?

/-- Reads text as one value, however deep. -/
def parseDeep? (text : String) : Option Json :=
  (Token.scan? text.toList).bind fun ts => ofTokensWithin? ts.length ts

/-! ## Over several lines -/

/-- A new line, indented by two blanks per level. -/
def newLine (level : Nat) : List Char :=
  '\n' :: List.replicate (2 * level) ' '

mutual
/-- The text of a value inside so many arrays and objects. -/
def prettyChars (level : Nat) : Json → List Char
  | null => Token.null.chars
  | bool b => (Token.bool b).chars
  | int i => (Token.int i).chars
  | float x => (Token.float x).chars
  | str s => (Token.str s).chars
  | arr [] => ['[', ']']
  | arr (j :: rest) =>
    '[' :: (newLine (level + 1) ++ prettyChars (level + 1) j
      ++ prettyItems (level + 1) rest ++ newLine level ++ [']'])
  | obj [] => ['\x7b', '\x7d']
  | obj ((k, j) :: rest) =>
    '\x7b' :: (newLine (level + 1) ++ Token.quoted k ++ [':', ' ']
      ++ prettyChars (level + 1) j ++ prettyFields (level + 1) rest
      ++ newLine level ++ ['\x7d'])

/-- The items behind the first one. -/
def prettyItems (level : Nat) : List Json → List Char
  | [] => []
  | j :: rest =>
    ',' :: (newLine level ++ prettyChars level j ++ prettyItems level rest)

/-- The fields behind the first one. -/
def prettyFields (level : Nat) : List (String × Json) → List Char
  | [] => []
  | (k, j) :: rest =>
    ',' :: (newLine level ++ Token.quoted k ++ [':', ' ']
      ++ prettyChars level j ++ prettyFields level rest)
end

/-- The text of a value over several lines. -/
def pretty (j : Json) : String := String.ofList (prettyChars 0 j)

end ScriptHost.Json
