/-
ScriptHost.Pattern.Text — reading patterns.

`Pattern.ofChars?` reads a regular expression and `Pattern.isValid` says
whether it can be used. A pattern stands between braces itself, so a brace
that opens inside it is closed by none: counts, and whatever else an escape
would put between braces, are no part of a pattern.
-/
import ScriptHost.Number.Numeral
import ScriptHost.Pattern.Basic
import ScriptHost.Text.Alphabetic
import ScriptHost.Text.Blank
import ScriptHost.Text.Numeric

namespace ScriptHost.Pattern

/-! ## Gaps -/

/-- The text behind blanks and comments. A comment reaches to the end of its
line. -/
def skipGap (inComment : Bool) : List Char → List Char
  | [] => []
  | c :: cs =>
    if inComment then skipGap (c ≠ '\n') cs
    else if isBlank c then skipGap false cs
    else if c = '#' then skipGap true cs
    else c :: cs

/-- The text behind what does not count: in the verbose mode a gap. -/
def behindGap (verbose : Bool) (cs : List Char) : List Char :=
  if verbose then skipGap false cs else cs

/-- The next character, without reading on. In the verbose mode blanks do
not count, nor does the mark in front of a comment. -/
def peek? (verbose : Bool) (cs : List Char) : Option Char :=
  if verbose then
    match cs.dropWhile isBlank with
    | '#' :: rest => (rest.dropWhile isBlank).head?
    | rest => rest.head?
  else cs.head?

/-! ## Escapes -/

/-- A part of a pattern that stands on its own: what a set may hold of it,
and what it is outside of one. -/
inductive Atom where
  | sign (s : Sign)
  | shorthand (negated : Bool)
  | textEdge
  | wordEdge
  deriving DecidableEq, Repr

/-- The atom as a pattern. -/
def Atom.toPattern : Atom → Pattern
  | sign s => .sign s
  | shorthand negated => .shorthand negated
  | textEdge => .textEdge
  | wordEdge => .wordEdge

/-- The atom as a member of a set, which an edge cannot be. -/
def Atom.toMember? : Atom → Option CharSet
  | sign s => some (.sign s)
  | shorthand negated => some (.shorthand negated)
  | _ => none

/-- The atom as an end of a range. -/
def Atom.toSign? : Atom → Option Sign
  | sign s => some s
  | _ => none

/-- How many hexadecimal digits follow a letter. -/
def hexLength? : Char → Option Nat
  | 'x' => some 2
  | 'u' => some 4
  | 'U' => some 8
  | _ => none

/-- So many hexadecimal digits, with gaps in front of each. -/
def readHexDigits? (verbose : Bool) :
    Nat → List Char → Option (List Char × List Char)
  | 0, cs => some ([], cs)
  | n + 1, cs =>
    match behindGap verbose cs with
    | [] => none
    | c :: rest =>
      if isHexDigit c then
        (readHexDigits? verbose n rest).map fun (digits, rest) =>
          (c :: digits, rest)
      else none

/-- The letters that escape to a character of their own. -/
def controlLetters : List Char := ['a', 'f', 't', 'n', 'r', 'v']

/-- Does a backslash in front of the character make it mean itself? -/
def isEscapable (c : Char) : Bool :=
  c.toNat < 0x80 && !c.isAlphanum && c ≠ '<' && c ≠ '>'

/-- Reads what stands behind a backslash. -/
def readEscape? (verbose : Bool) : List Char → Option (Atom × List Char)
  | [] => none
  | c :: rest =>
    match hexLength? c with
    | some length => do
      let (digits, rest) ← readHexDigits? verbose length rest
      let n := ofDigits 16 digits
      if n.isValidChar then
        some (.sign { char := Char.ofNat n, isByte := c = 'x' }, rest)
      else none
    | none =>
      if ['d', 's', 'w'].contains c then some (.shorthand false, rest)
      else if ['D', 'S', 'W'].contains c then some (.shorthand true, rest)
      else if ['A', 'z'].contains c then some (.textEdge, rest)
      else if ['b', 'B', '<', '>'].contains c then some (.wordEdge, rest)
      else if controlLetters.contains c || isEscapable c then
        some (.sign { char := c }, rest)
      else none

/-! ## Sets -/

/-- The names of the classes of ASCII characters. -/
def classNames : List String :=
  ["alnum", "alpha", "ascii", "blank", "cntrl", "digit", "graph", "lower",
    "print", "punct", "space", "upper", "word", "xdigit"]

/-- Reads a class by its name, behind the bracket that opens it. -/
def readClass? : List Char → Option (CharSet × List Char)
  | ':' :: rest =>
    let (negated, body) := match rest with
      | '^' :: body => (true, body)
      | _ => (false, rest)
    match body.dropWhile (· ≠ ':') with
    | ':' :: ']' :: behind =>
      if classNames.contains (String.ofList (body.takeWhile (· ≠ ':'))) then
        some (.named negated, behind)
      else none
    | _ => none
  | _ => none

/-- An atom of a set. Without a backslash every character is itself. -/
def readAtom? (verbose : Bool) : List Char → Option (Atom × List Char)
  | [] => none
  | '\\' :: rest => readEscape? verbose rest
  | c :: rest => some (.sign { char := c }, rest)

/-- Reads a member of a set, or a range of members. A hyphen in front of the
closing bracket or of another hyphen makes no range. -/
def readMember? (verbose : Bool) (cs : List Char) :
    Option (CharSet × List Char) := do
  let (first, rest) ← readAtom? verbose cs
  match behindGap verbose rest with
  | [] => none
  | '-' :: behind =>
    let next := peek? verbose behind
    if next = some ']' ∨ next = some '-' then
      first.toMember?.map (·, '-' :: behind)
    else
      let (last, rest) ← readAtom? verbose (behindGap verbose behind)
      let low ← first.toSign?
      let high ← last.toSign?
      if low.char ≤ high.char then some (.range low high, rest) else none
  | rest => first.toMember?.map (·, rest)

/-- A set whose closing bracket is still to come. -/
structure OpenSet where
  negated : Bool
  /-- What stands in front of the last operator. -/
  left : Option CharSet := none
  /-- The members behind it, last first. -/
  members : List CharSet := []
  /-- Were only hyphens read so far? They are members, and so is a closing
  bracket that comes first of all. -/
  begins : Bool := true

namespace OpenSet

/-- Opens a set behind its bracket. -/
def start (verbose : Bool) (cs : List Char) : OpenSet × List Char :=
  match behindGap verbose cs with
  | '^' :: rest => ({ negated := true }, rest)
  | rest => ({ negated := false }, rest)

/-- Puts a member into the set. -/
def add (s : OpenSet) (member : CharSet) : OpenSet :=
  { s with members := member :: s.members, begins := false }

/-- Puts a hyphen at the beginning of the set. -/
def addHyphen (s : OpenSet) : OpenSet :=
  { s.add (.sign { char := '-' }) with begins := true }

/-- What was read so far. -/
def content (s : OpenSet) : CharSet :=
  let right := CharSet.ofMembers s.members.reverse
  match s.left with
  | some left => .operation left right
  | none => right

/-- Turns what was read so far into the left side of an operator. -/
def operate (s : OpenSet) : OpenSet :=
  { s with left := some s.content, members := [], begins := false }

/-- The set, closed. -/
def close (s : OpenSet) : CharSet := .bracket s.negated s.content

end OpenSet

/-- Reads a set up to its closing bracket. Each turn takes a character at
least, so `fuel` need not be more than there are. -/
def readSet? (verbose : Bool) :
    (fuel : Nat) → OpenSet → List Char → Option (CharSet × List Char)
  | 0, _, _ => none
  | fuel + 1, s, cs =>
    let cs := behindGap verbose cs
    match s.begins, cs with
    | true, '-' :: rest => readSet? verbose fuel s.addHyphen rest
    | begins, ']' :: rest =>
      if begins && s.members.isEmpty then
        readSet? verbose fuel (s.add (.sign { char := ']' })) rest
      else some (s.close, rest)
    | _, '[' :: rest =>
      match readClass? rest with
      | some (member, rest) => readSet? verbose fuel (s.add member) rest
      | none => do
        let (inner, rest) := OpenSet.start verbose rest
        let (member, rest) ← readSet? verbose fuel inner rest
        readSet? verbose fuel (s.add member) rest
    | _, '&' :: '&' :: rest => readSet? verbose fuel s.operate rest
    | _, '-' :: '-' :: rest => readSet? verbose fuel s.operate rest
    | _, '~' :: '~' :: rest => readSet? verbose fuel s.operate rest
    | _, _ => do
      let (member, rest) ← readMember? verbose cs
      readSet? verbose fuel (s.add member) rest

/-! ## Groups -/

/-- What the opening of a group says. -/
inductive Opening where
  /-- Flags for the rest of the group that is open. -/
  | flags (changes : Flags)
  /-- A group, which may change flags or have a name. -/
  | group (changes : Flags) (name : Option (List Char))
  deriving DecidableEq, Repr

/-- Reads flags: each is named once, and one hyphen turns off all that
follow it. -/
def readFlags? (on : Bool) : List Char → Option Flags
  | [] => some []
  | '-' :: rest =>
    if on && !rest.isEmpty then readFlags? false rest else none
  | c :: rest => do
    let flag ← Flag.ofChar? c
    let changes ← readFlags? on rest
    if changes.any (·.1 = flag) then none else some ((flag, on) :: changes)

/-- May the character stand in the name of a group behind the first? -/
def isNameTail (c : Char) : Bool :=
  c = '_' || c = '.' || c = '[' || c = ']' || isAlphabetic c || isNumeric c

/-- Is it a name of a group? -/
def isName : List Char → Bool
  | [] => false
  | c :: cs => (c = '_' || isAlphabetic c) && cs.all isNameTail

/-- Reads the name of a group and the angle that closes it. -/
def readName? (cs : List Char) : Option (Opening × List Char) :=
  match cs.dropWhile (· ≠ '>') with
  | '>' :: rest =>
    let name := cs.takeWhile (· ≠ '>')
    if isName name then some (.group [] (some name), rest) else none
  | _ => none

/-- Reads what stands behind the parenthesis that opens a group. Groups that
only look ahead or back are none. -/
def readOpening? : List Char → Option (Opening × List Char)
  | '?' :: '=' :: _ => none
  | '?' :: '!' :: _ => none
  | '?' :: '<' :: '=' :: _ => none
  | '?' :: '<' :: '!' :: _ => none
  | '?' :: 'P' :: '<' :: rest => readName? rest
  | '?' :: '<' :: rest => readName? rest
  | '?' :: rest =>
    let isFlag (c : Char) : Bool := c ≠ ':' && c ≠ ')'
    match readFlags? true (rest.takeWhile isFlag), rest.dropWhile isFlag with
    | some changes, ':' :: behind => some (.group changes none, behind)
    | some (change :: changes), ')' :: behind =>
      some (.flags (change :: changes), behind)
    | _, _ => none
  | rest => some (.group [] none, rest)

/-- A group whose closing parenthesis is still to come. -/
structure OpenGroup where
  /-- The branches that are complete, last first. -/
  branches : List Pattern := []
  /-- The parts of the branch that is read, last first. -/
  parts : List Pattern := []

namespace OpenGroup

/-- Puts a part behind the others. -/
def add (g : OpenGroup) (part : Pattern) : OpenGroup :=
  { g with parts := part :: g.parts }

/-- Ends a branch. -/
def endBranch (g : OpenGroup) : OpenGroup where
  branches := ofParts g.parts.reverse :: g.branches

/-- Repeats the last part. Flags cannot be repeated. -/
def repeat? (g : OpenGroup) : Option OpenGroup :=
  match g.parts with
  | [] => none
  | .flags _ :: _ => none
  | part :: rest => some { g with parts := .repetition part :: rest }

/-- The pattern inside the group. -/
def close (g : OpenGroup) : Pattern := ofBranches g.endBranch.branches.reverse

end OpenGroup

/-! ## Patterns -/

/-- How far a pattern is read. -/
structure Cursor where
  rest : List Char
  verbose : Bool := false
  /-- The names of groups so far. -/
  names : List (List Char) := []

/-- Is it the mark of a repetition? -/
def isRepetition (c : Char) : Bool := c = '?' || c = '*' || c = '+'

/-- Takes a question mark off, which makes a repetition modest. -/
def dropModest : List Char → List Char
  | '?' :: rest => rest
  | rest => rest

/-- Reads the inside of a group up to its closing parenthesis or the end of
the text. Each turn takes a character at least, so `fuel` need not be more
than there are and one. -/
def readGroup? : (fuel : Nat) → OpenGroup → Cursor → Option (Pattern × Cursor)
  | 0, _, _ => none
  | fuel + 1, g, here =>
    let cs := behindGap here.verbose here.rest
    let continue? (part : Pattern) (rest : List Char) :=
      readGroup? fuel (g.add part) { here with rest := rest }
    match cs with
    | [] => some (g.close, { here with rest := [] })
    | ')' :: _ => some (g.close, { here with rest := cs })
    | '|' :: rest => readGroup? fuel g.endBranch { here with rest := rest }
    | '(' :: rest => do
      match ← readOpening? (behindGap here.verbose rest) with
      | (.flags changes, rest) =>
        readGroup? fuel (g.add (.flags changes)) { here with
          rest := rest
          verbose := changes.apply .verbose here.verbose }
      | (.group changes name, rest) =>
        let taken := match name with
          | some name => here.names.contains name
          | none => false
        if taken then none
        else
          let (body, inner) ← readGroup? fuel {}
            { rest := rest
              verbose := changes.apply .verbose here.verbose
              names := name.toList ++ here.names }
          match inner.rest with
          | ')' :: rest =>
            readGroup? fuel (g.add (.group changes body))
              { rest := rest, verbose := here.verbose, names := inner.names }
          | _ => none
    | '[' :: rest => do
      let (inner, rest) := OpenSet.start here.verbose rest
      let (members, rest) ← readSet? here.verbose rest.length inner rest
      continue? (.set members) rest
    | '\x7b' :: _ => none
    | '\\' :: rest => do
      let (atom, rest) ← readEscape? here.verbose rest
      continue? atom.toPattern rest
    | '.' :: rest => continue? .point rest
    | '^' :: rest => continue? .textEdge rest
    | '$' :: rest => continue? .textEdge rest
    | c :: rest =>
      if isRepetition c then do
        readGroup? fuel (← g.repeat?) { here with rest := dropModest rest }
      else continue? (.sign { char := c }) rest

/-- Reads a whole text as a pattern. -/
def ofChars? (cs : List Char) : Option Pattern :=
  match readGroup? (cs.length + 1) {} { rest := cs } with
  | some (p, { rest := [], .. }) => some p
  | _ => none

/-- Is the text a pattern that can be used? -/
def isValid (cs : List Char) : Bool :=
  match ofChars? cs with
  | some p => p.isUsable
  | none => false

end ScriptHost.Pattern
