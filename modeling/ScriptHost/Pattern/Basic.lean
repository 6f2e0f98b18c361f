/-
ScriptHost.Pattern.Basic — patterns for the values of log fields.

A pattern is a regular expression. What is kept of one is what decides
whether it can be used: how it is nested (`Pattern.depth`) and whether its
parts fit the modes in force where they stand (`Pattern.modesBehind?`). A
pattern matches texts and never stops inside a character, and it knows
neither the cases nor the kinds of letters beyond ASCII.
-/

namespace ScriptHost

namespace Pattern

/-! ## Modes -/

/-- What the letter of a flag stands for. -/
inductive Flag where
  /-- A letter also stands for its capital or small letter. -/
  | caseless
  /-- Lines have edges. -/
  | multiline
  /-- The point also stands for the end of a line. -/
  | anyPoint
  /-- Repetitions take as little as they can. -/
  | modest
  /-- Sets hold characters, not bytes. -/
  | unicode
  /-- A line may end in a return and a line feed. -/
  | returns
  /-- Blanks and comments do not count. -/
  | verbose
  deriving DecidableEq, Repr

/-- The flag of a letter. -/
def Flag.ofChar? : Char → Option Flag
  | 'i' => some caseless
  | 'm' => some multiline
  | 's' => some anyPoint
  | 'U' => some modest
  | 'u' => some unicode
  | 'R' => some returns
  | 'x' => some verbose
  | _ => none

/-- Flags in the order in which they are written, each turned on or off. -/
abbrev Flags := List (Flag × Bool)

/-- What becomes of a flag that is `now` on or off. -/
def Flags.apply (flags : Flags) (flag : Flag) (now : Bool) : Bool :=
  (flags.lookup flag).getD now

/-- The modes that decide what a pattern may hold. -/
structure Modes where
  caseless : Bool := false
  unicode : Bool := true
  deriving DecidableEq, Repr

/-- The modes behind flags. -/
def Modes.change (m : Modes) (flags : Flags) : Modes where
  caseless := flags.apply .caseless m.caseless
  unicode := flags.apply .unicode m.unicode

/-! ## Single characters -/

/-- A character of a pattern. -/
structure Sign where
  char : Char
  /-- Is it written as a number of two hexadecimal digits, which may also
  be a byte? -/
  isByte : Bool := false
  deriving DecidableEq, Repr

namespace Sign

/-- May the character stand on its own? One that is to stand for both its
cases needs them to be known, and a byte alone must be a character. -/
def fits (m : Modes) (s : Sign) : Bool :=
  if m.unicode then !m.caseless
  else !s.isByte || s.char.toNat < 0x80

/-- May the character stand in a set? A set of bytes holds bytes that are
characters. -/
def fitsSet (m : Modes) (s : Sign) : Bool :=
  if m.unicode then !m.caseless else s.char.toNat < 0x80

end Sign

end Pattern

/-! ## Sets -/

/-- A set of characters, as it is written. -/
inductive CharSet where
  | empty
  | sign (s : Pattern.Sign)
  /-- All characters between two, ends included. -/
  | range (first last : Pattern.Sign)
  /-- A class of ASCII characters that is called by its name. -/
  | named (negated : Bool)
  /-- A class of characters that an escape stands for. -/
  | shorthand (negated : Bool)
  /-- A set in brackets. -/
  | bracket (negated : Bool) (content : CharSet)
  /-- Two members and more. -/
  | union (members : List CharSet)
  /-- What two sets share, or one has before the other, or one alone. -/
  | operation (left right : CharSet)
  deriving Inhabited, Repr

namespace CharSet

/-- The set of some members. -/
def ofMembers : List CharSet → CharSet
  | [] => empty
  | [member] => member
  | members => union members

mutual
/-- May the set be used? Its characters must fit. Classes that an escape
stands for are known for bytes only, and a set of bytes must not hold bytes
that are no characters. -/
def fits (m : Pattern.Modes) : CharSet → Bool
  | empty => true
  | sign s => s.fitsSet m
  | range first last => first.fitsSet m && last.fitsSet m
  | named negated => if m.unicode then !m.caseless else !negated
  | shorthand negated => !m.unicode && !negated
  | bracket negated content => content.fits m && (m.unicode || !negated)
  | union members => allFit m members
  | operation left right => left.fits m && right.fits m

/-- `fits` for the members of a union. -/
def allFit (m : Pattern.Modes) : List CharSet → Bool
  | [] => true
  | s :: rest => s.fits m && allFit m rest
end

mutual
/-- How deep the set is nested. -/
def depth : CharSet → Nat
  | bracket _ content => content.depth + 1
  | union members => depthAll members + 1
  | operation left right => max left.depth right.depth + 1
  | _ => 0

/-- The depth of the deepest member. -/
def depthAll : List CharSet → Nat
  | [] => 0
  | s :: rest => max s.depth (depthAll rest)
end

end CharSet

/-! ## Patterns -/

/-- A pattern, as it is written. -/
inductive Pattern where
  | empty
  | sign (s : Pattern.Sign)
  /-- The point. -/
  | point
  /-- The start or the end of the text or of a line. -/
  | textEdge
  /-- The edge of a word, or no edge of one. -/
  | wordEdge
  /-- A class of characters that an escape stands for. -/
  | shorthand (negated : Bool)
  | set (members : CharSet)
  /-- Flags for the rest of the group. -/
  | flags (changes : Pattern.Flags)
  | repetition (body : Pattern)
  /-- A group, with flags for itself alone. -/
  | group (changes : Pattern.Flags) (body : Pattern)
  /-- Two parts and more, one behind the other. -/
  | sequence (parts : List Pattern)
  /-- Two branches and more, one of which is to match. -/
  | choice (branches : List Pattern)
  deriving Inhabited, Repr

namespace Pattern

/-- The pattern of some parts. -/
def ofParts : List Pattern → Pattern
  | [] => empty
  | [part] => part
  | parts => sequence parts

/-- The pattern of some branches. -/
def ofBranches : List Pattern → Pattern
  | [branch] => branch
  | branches => choice branches

mutual
/-- The modes behind a pattern, if it can be used in the modes in front of
it. The point, which stands for any character, must not stand for a byte;
the edges of words and the classes that an escape stands for are known for
bytes only. -/
def modesBehind? (m : Modes) : Pattern → Option Modes
  | empty => some m
  | sign s => if s.fits m then some m else none
  | point => if m.unicode then some m else none
  | textEdge => some m
  | wordEdge => if m.unicode then none else some m
  | shorthand negated => if !m.unicode && !negated then some m else none
  | set members => if members.fits m then some m else none
  | flags changes => some (m.change changes)
  | repetition body => body.modesBehind? m
  | group changes body => (body.modesBehind? (m.change changes)).map fun _ => m
  | sequence parts => modesBehindAll? m parts
  | choice branches => modesBehindAll? m branches

/-- The modes behind one pattern after the other. -/
def modesBehindAll? (m : Modes) : List Pattern → Option Modes
  | [] => some m
  | p :: rest => (p.modesBehind? m).bind fun m => modesBehindAll? m rest
end

mutual
/-- How deep the pattern is nested. -/
def depth : Pattern → Nat
  | set members => members.depth
  | repetition body => body.depth + 1
  | group _ body => body.depth + 1
  | sequence parts => depthAll parts + 1
  | choice branches => depthAll branches + 1
  | _ => 0

/-- The depth of the deepest pattern. -/
def depthAll : List Pattern → Nat
  | [] => 0
  | p :: rest => max p.depth (depthAll rest)
end

/-- How deep a pattern may be nested. -/
def maxDepth : Nat := 250

/-- Can the pattern be used? -/
def isUsable (p : Pattern) : Bool :=
  p.depth ≤ maxDepth && (p.modesBehind? {}).isSome

end Pattern

end ScriptHost
