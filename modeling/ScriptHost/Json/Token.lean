/-
ScriptHost.Json.Token — the words of JSON text.

`Token.chars` writes a token and `Token.scan` cuts text into tokens. The
scanner is a machine that reads one character at a time (`Mode`, `step`),
so what it does on a written token follows character by character.
-/
import ScriptHost.Json.Number

namespace ScriptHost.Json

/-- A word of JSON text. -/
inductive Token where
  | openArr
  | closeArr
  | openObj
  | closeObj
  | comma
  | colon
  | null
  | bool (b : Bool)
  | int (i : Int)
  | float (x : Binary64)
  | str (s : String)
  deriving DecidableEq, Repr

namespace Token

/-! ## Writing -/

/-- A lower-case hexadecimal digit. -/
def hexDigit (n : Nat) : Char := Nat.digitChar n

/-- A character inside a string. -/
def escape (c : Char) : List Char :=
  if c = '"' then ['\\', '"']
  else if c = '\\' then ['\\', '\\']
  else if c = '\x08' then ['\\', 'b']
  else if c = '\t' then ['\\', 't']
  else if c = '\n' then ['\\', 'n']
  else if c = '\x0c' then ['\\', 'f']
  else if c = '\r' then ['\\', 'r']
  else if c.toNat < 0x20 then
    ['\\', 'u', '0', '0', hexDigit (c.toNat / 16), hexDigit (c.toNat % 16)]
  else [c]

/-- A string with its quotes. -/
def quoted (s : String) : List Char :=
  '"' :: (s.toList.flatMap escape ++ ['"'])

/-- The text of a token. What is not a finite number is written as null. -/
def chars : Token → List Char
  | openArr => ['[']
  | closeArr => [']']
  | openObj => ['\x7b']
  | closeObj => ['\x7d']
  | comma => [',']
  | colon => [':']
  | null => "null".toList
  | bool true => "true".toList
  | bool false => "false".toList
  | int i => Decimal.intChars i
  | float x => if x.isFinite then Number.floatChars x else "null".toList
  | str s => quoted s

/-! ## Reading -/

/-- Where the scanner stands. Gathered characters are kept last first. -/
inductive Mode where
  /-- Between tokens. -/
  | between
  /-- Inside a word of letters. -/
  | word (done : List Char)
  /-- Inside a number. -/
  | number (done : List Char)
  /-- Inside a string. -/
  | text (done : List Char)
  /-- Behind a backslash. -/
  | escaped (done : List Char)
  /-- Inside the four digits of a code unit, of which so many are missing;
  `high` is the first half of a pair. -/
  | unit (done : List Char) (high : Option Nat) (missing : Nat) (value : Nat)
  /-- Behind the first half of a pair: a backslash must follow. -/
  | lowMark (done : List Char) (high : Nat)
  /-- Behind that backslash: a `u` must follow. -/
  | lowUnit (done : List Char) (high : Nat)
  deriving Repr

/-- Blanks between tokens. -/
def isBlank (c : Char) : Bool := c = ' ' || c = '\t' || c = '\n' || c = '\r'

/-- Characters that continue a number. -/
def isNumberChar (c : Char) : Bool :=
  c.isDigit || c = '-' || c = '+' || c = '.' || c = 'e' || c = 'E'

/-- Does a letter continue a word? -/
def isWordChar (c : Char) : Bool := 'a' ≤ c && c ≤ 'z'

/-- The token of a number. -/
def ofNumber? (cs : List Char) : Option Token :=
  match Number.read? cs with
  | some (.int i) => some (int i)
  | some (.float x) => some (float x)
  | _ => none

/-- The token of a word. -/
def ofWord? (cs : List Char) : Option Token :=
  if cs = "null".toList then some null
  else if cs = "true".toList then some (bool true)
  else if cs = "false".toList then some (bool false)
  else none

/-- A character between tokens: a token of its own, or the first of one. -/
def start? (c : Char) : Option (List Token × Mode) :=
  if isBlank c then some ([], .between)
  else if c = '[' then some ([openArr], .between)
  else if c = ']' then some ([closeArr], .between)
  else if c = '\x7b' then some ([openObj], .between)
  else if c = '\x7d' then some ([closeObj], .between)
  else if c = ',' then some ([comma], .between)
  else if c = ':' then some ([colon], .between)
  else if c = '"' then some ([], .text [])
  else if c.isDigit || c = '-' then some ([], .number [c])
  else if isWordChar c then some ([], .word [c])
  else none

/-- The character that a letter behind a backslash stands for. -/
def unescape? (c : Char) : Option Char :=
  if c = '"' then some '"'
  else if c = '\\' then some '\\'
  else if c = '/' then some '/'
  else if c = 'b' then some '\x08'
  else if c = 'f' then some '\x0c'
  else if c = 'n' then some '\n'
  else if c = 'r' then some '\r'
  else if c = 't' then some '\t'
  else none

/-- A finished code unit: a character, or half of a pair. -/
def finishUnit? (done : List Char) (high : Option Nat) (value : Nat) :
    Option Mode :=
  match high with
  | none =>
    if 0xD800 ≤ value ∧ value < 0xDC00 then some (.lowMark done value)
    else if 0xDC00 ≤ value ∧ value < 0xE000 then none
    else some (.text (Char.ofNat value :: done))
  | some h =>
    if 0xDC00 ≤ value ∧ value < 0xE000 then
      some (.text
        (Char.ofNat (0x10000 + (h - 0xD800) * 1024 + (value - 0xDC00)) :: done))
    else none

/-- Reads one character: the tokens that it ends, and where the scanner
stands afterwards. -/
def step? : Mode → Char → Option (List Token × Mode)
  | .between, c => start? c
  | .word done, c =>
    if isWordChar c then some ([], .word (c :: done))
    else do
      let token ← ofWord? done.reverse
      let (tokens, mode) ← start? c
      pure (token :: tokens, mode)
  | .number done, c =>
    if isNumberChar c then some ([], .number (c :: done))
    else do
      let token ← ofNumber? done.reverse
      let (tokens, mode) ← start? c
      pure (token :: tokens, mode)
  | .text done, c =>
    if c = '"' then some ([str (String.ofList done.reverse)], .between)
    else if c = '\\' then some ([], .escaped done)
    else if c.toNat < 0x20 then none
    else some ([], .text (c :: done))
  | .escaped done, c =>
    if c = 'u' then some ([], .unit done none 4 0)
    else (unescape? c).map fun d => ([], .text (d :: done))
  | .unit done high missing value, c =>
    match hexValue? c with
    | none => none
    | some d =>
      if missing ≤ 1 then
        (finishUnit? done high (value * 16 + d)).map fun mode => ([], mode)
      else some ([], .unit done high (missing - 1) (value * 16 + d))
  | .lowMark done high, c =>
    if c = '\\' then some ([], .lowUnit done high) else none
  | .lowUnit done high, c =>
    if c = 'u' then some ([], .unit done (some high) 4 0) else none

/-- The token that the end of the text ends. -/
def finish? : Mode → Option (List Token)
  | .between => some []
  | .word done => (ofWord? done.reverse).map ([·])
  | .number done => (ofNumber? done.reverse).map ([·])
  | _ => none

/-- Cuts text into tokens, from where the scanner stands. -/
def scanFrom? : Mode → List Char → Option (List Token)
  | mode, [] => finish? mode
  | mode, c :: rest =>
    match step? mode c with
    | none => none
    | some (tokens, mode') => (scanFrom? mode' rest).map (tokens ++ ·)

/-- Cuts text into tokens. -/
def scan? (cs : List Char) : Option (List Token) := scanFrom? .between cs

end Token

end ScriptHost.Json
