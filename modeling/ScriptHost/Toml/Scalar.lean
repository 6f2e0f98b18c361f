/-
ScriptHost.Toml.Scalar — texts, numbers and keys of configuration files.

Every function here takes its form off the front of the text and gives the
rest. Texts come in four forms: on one line or on several, with escapes or
without. Digits of a number may be grouped with single underscores.
-/
import ScriptHost.Toml.Value
import ScriptHost.Toml.Date

namespace ScriptHost.Toml

/-- Takes something off the front of a text. -/
abbrev Reads (α : Type) := List Char → Option (α × List Char)

/-! ## Blanks -/

/-- A blank inside a line. -/
def isSpace (c : Char) : Bool := c = ' ' || c = '\t'

/-- Leaves out blanks inside a line. -/
def skipSpaces (cs : List Char) : List Char := cs.dropWhile isSpace

/-- A character that may stand in a comment or a text as it is. -/
def isPlain (c : Char) : Bool :=
  c = '\t' || (0x20 ≤ c.toNat && c.toNat ≠ 0x7F)

/-- Takes the end of a line off. -/
def newLine? : List Char → Option (List Char)
  | '\n' :: rest => some rest
  | '\r' :: '\n' :: rest => some rest
  | _ => none

/-- Leaves out a comment, if there is one. -/
def skipComment : List Char → List Char
  | '#' :: rest => rest.dropWhile isPlain
  | cs => cs

/-- Leaves out blanks, comments and ends of lines, so many of them at
most. -/
def skipLines : Nat → List Char → List Char
  | 0, cs => cs
  | fuel + 1, cs =>
    let behind := skipComment (skipSpaces cs)
    match newLine? behind with
    | some rest => skipLines fuel rest
    | none => behind

/-- Leaves out blanks, comments and ends of lines. -/
def skipBlank (cs : List Char) : List Char := skipLines cs.length cs

/-- Leaves out blanks and ends of lines, behind a backslash at the end of a
line. -/
def skipJoin : List Char → List Char
  | '\r' :: '\n' :: rest => skipJoin rest
  | c :: rest => if isSpace c || c = '\n' then skipJoin rest else c :: rest
  | [] => []

/-! ## Texts -/

/-- The character that so many hexadecimal digits give. -/
def unicode? (count : Nat) : Reads Char := fun cs =>
  let digits := cs.take count
  let n := ofDigits 16 digits
  if digits.length = count && digits.all isHexDigit && n.isValidChar then
    some (Char.ofNat n, cs.drop count)
  else none

/-- What follows a backslash. -/
def escape? : Reads Char
  | 'b' :: rest => some ('\x08', rest)
  | 't' :: rest => some ('\t', rest)
  | 'n' :: rest => some ('\n', rest)
  | 'f' :: rest => some ('\x0c', rest)
  | 'r' :: rest => some ('\r', rest)
  | '"' :: rest => some ('"', rest)
  | '\\' :: rest => some ('\\', rest)
  | 'u' :: rest => unicode? 4 rest
  | 'U' :: rest => unicode? 8 rest
  | _ => none

/-- The rest of a text on one line. Gathered characters are kept last
first; every step takes a character of the fuel. -/
def line? (quote : Char) : Nat → List Char → Reads String
  | 0, _, _ => none
  | _, _, [] => none
  | fuel + 1, done, c :: rest =>
    if c = quote then some (String.ofList done.reverse, rest)
    else if c = '\\' && quote = '"' then
      match escape? rest with
      | some (d, rest) => line? quote fuel (d :: done) rest
      | none => none
    else if isPlain c then line? quote fuel (c :: done) rest
    else none

/-- A backslash at the end of a line: blanks up to the next text are left
out. None if the line does not end behind it. -/
def lineJoin? (cs : List Char) : Option (List Char) :=
  (newLine? (skipSpaces cs)).map skipJoin

/-- The rest of a text on several lines. Up to two quotes in a row belong
to the text; three end it, with up to two more in front of them. -/
def lines? (quote : Char) : Nat → List Char → Reads String
  | 0, _, _ => none
  | _, _, [] => none
  | fuel + 1, done, c :: rest =>
    if c = quote then
      let run := 1 + (rest.takeWhile (· = quote)).length
      if run < 3 then lines? quote fuel (quote :: done) rest
      else
        let more := min run 5 - 3
        some (String.ofList (List.replicate more quote ++ done).reverse,
          rest.drop (more + 2))
    else if c = '\\' && quote = '"' then
      match lineJoin? rest with
      | some rest => lines? quote fuel done rest
      | none =>
        match escape? rest with
        | some (d, rest) => lines? quote fuel (d :: done) rest
        | none => none
    else if isPlain c then lines? quote fuel (c :: done) rest
    else match newLine? (c :: rest) with
      | some rest => lines? quote fuel ('\n' :: done) rest
      | none => none

/-- A text in one of the four forms. -/
def text? : Reads String
  | c :: rest =>
    if c ≠ '"' ∧ c ≠ '\'' then none
    else match rest with
      | d :: e :: body =>
        if d = c && e = c then
          let body := (newLine? body).getD body
          lines? c (body.length + 1) [] body
        else line? c (rest.length + 1) [] rest
      | _ => line? c (rest.length + 1) [] rest
  | [] => none

/-! ## Keys -/

/-- A character of a key without quotes. -/
def isKeyChar (c : Char) : Bool := c.isAlphanum || c = '_' || c = '-'

/-- One name of a key. -/
def name? (cs : List Char) : Option (String × List Char) :=
  match cs with
  | [] => none
  | c :: rest =>
    if c = '"' ∨ c = '\'' then line? c (rest.length + 1) [] rest
    else
      let front := cs.takeWhile isKeyChar
      if front.isEmpty then none
      else some (String.ofList front, cs.dropWhile isKeyChar)

/-- Nesting and keys reach below this depth. -/
def depthLimit : Nat := 80

/-- Names with dots between them, at most `fuel` of them; blanks around a
name are left out. -/
def names? : Nat → Reads (List String)
  | 0, _ => none
  | fuel + 1, cs => do
    let (name, rest) ← name? (skipSpaces cs)
    match skipSpaces rest with
    | '.' :: behind =>
      let (more, rest) ← names? fuel behind
      pure (name :: more, rest)
    | rest => pure ([name], rest)

/-- A key: names with dots between them. -/
def key? : Reads (List String) := names? (depthLimit - 1)

/-! ## Numbers -/

/-- Digits in which single underscores may stand between two of them: the
digits, and the rest. -/
def grouped (isDigit : Char → Bool) : List Char → List Char × List Char
  | '_' :: c :: rest =>
    if isDigit c then
      let (more, tail) := grouped isDigit rest
      (c :: more, tail)
    else ([], '_' :: c :: rest)
  | c :: rest =>
    if isDigit c then
      let (more, tail) := grouped isDigit rest
      (c :: more, tail)
    else ([], c :: rest)
  | [] => ([], [])

/-- Digits that do not begin with an underscore, at least one. -/
def digits? (isDigit : Char → Bool) (cs : List Char) :
    Option (List Char × List Char) :=
  match cs with
  | c :: _ => if isDigit c then some (grouped isDigit cs) else none
  | [] => none

/-- The digits of an integer part: a zero alone, or digits that do not
begin with zero. -/
def whole? : List Char → Option (List Char × List Char)
  | '0' :: rest => some (['0'], rest)
  | cs => digits? Char.isDigit cs

/-- An integer in another base. -/
def based? (base : Nat) (isDigit : Char → Bool) (cs : List Char) :
    Option (Toml × List Char) := do
  let (digits, rest) ← digits? isDigit cs
  let n := ofDigits base digits
  if Word.isSigned n then some (int (Int64.ofNat n), rest) else none

/-- The fraction behind an integer part. -/
def fraction? : List Char → Option (List Char × List Char)
  | '.' :: rest => digits? Char.isDigit rest
  | cs => some ([], cs)

/-- The exponent behind a fraction. -/
def exponent? (cs : List Char) : Option (Int × List Char) :=
  match cs with
  | c :: rest =>
    if c = 'e' ∨ c = 'E' then do
      let (negative, rest) := ScriptNumber.splitSign rest
      let (digits, rest) ← digits? Char.isDigit rest
      let n : Int := ofDigits 10 digits
      pure (if negative then -n else n, rest)
    else some (0, cs)
  | [] => some (0, [])

/-- A number in decimal digits behind its sign: a double if it has a
fraction or an exponent, else an integer. A double beyond the largest one
is refused if it is positive. -/
def decimal? (negative : Bool) (cs : List Char) :
    Option (Toml × List Char) := do
  let (whole, behind) ← whole? cs
  let isFloat : Bool := match behind with
    | c :: _ => c = '.' || c = 'e' || c = 'E'
    | [] => false
  if isFloat then
    let (fraction, rest) ← fraction? behind
    let (e, rest) ← exponent? rest
    let x := Binary64.ofDecimal negative (ofDigits 10 (whole ++ fraction))
      (e - (fraction.length : Int))
    if x.isInfinite && !negative then none else pure (float x, rest)
  else
    let n : Int := ofDigits 10 whole
    let i := if negative then -n else n
    if Word.isSigned i then pure (int (Int64.ofInt i), behind) else none

/-- A number behind its sign, the two names of special doubles included. -/
def signed? (negative : Bool) : Reads Toml
  | 'i' :: 'n' :: 'f' :: rest =>
    some (float (.ofMagnitude negative Binary64.infinityPattern), rest)
  | 'n' :: 'a' :: 'n' :: rest =>
    some (float (if negative then Binary64.nan.neg else .nan), rest)
  | cs => decimal? negative cs

/-- A number. -/
def number? : Reads Toml
  | '0' :: 'x' :: rest => based? 16 isHexDigit rest
  | '0' :: 'o' :: rest => based? 8 (fun c => '0' ≤ c && c ≤ '7') rest
  | '0' :: 'b' :: rest => based? 2 (fun c => c = '0' || c = '1') rest
  | '+' :: rest => signed? false rest
  | '-' :: rest => signed? true rest
  | cs => signed? false cs

/-- A text, a boolean, a date or a number. -/
def scalar? (cs : List Char) : Option (Toml × List Char) :=
  match cs with
  | '"' :: _ => (text? cs).map fun (s, rest) => (str s, rest)
  | '\'' :: _ => (text? cs).map fun (s, rest) => (str s, rest)
  | 't' :: 'r' :: 'u' :: 'e' :: rest => some (bool true, rest)
  | 'f' :: 'a' :: 'l' :: 's' :: 'e' :: rest => some (bool false, rest)
  | _ =>
    match DateTime.read? cs with
    | some (d, rest) => some (date d.text, rest)
    | none => number? cs

end ScriptHost.Toml
