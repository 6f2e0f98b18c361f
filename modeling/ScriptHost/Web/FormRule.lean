/-
ScriptHost.Web.FormRule — rules for what visitors type into forms.

A rule list is a text of rules with commas between them; `firstFailing?` is
the leftmost rule that a value breaks. Names of players and guilds are words
with single spaces between them (`isWords`), and no value may hold a word of
the blacklist.
-/
import ScriptHost.Text.Alphabetic
import ScriptHost.Text.Blank
import ScriptHost.Text.Character
import ScriptHost.Text.LowerCase
import ScriptHost.Text.Numeric
import ScriptHost.Url.WebAddress

namespace ScriptHost.FormRule

/-! ## Single rules -/

/-- Cuts characters at the first of a kind. -/
def cutAt (mark : Char) : List Char → Option (List Char × List Char)
  | [] => none
  | c :: rest =>
    if c = mark then some ([], rest)
    else (cutAt mark rest).map fun (front, back) => (c :: front, back)

/-- The largest length that a rule may name. -/
def largestLength : Nat := Word.max64

/-- The length that a rule names: digits, with an optional plus. -/
def length? (cs : List Char) : Option Nat :=
  let digits := match cs with
    | '+' :: rest => rest
    | _ => cs
  (decimalNat? digits).filter fun n => n ≤ largestLength

/-- Is it a mail address: something, an `@`, and a domain with a dot that
stands at neither end? -/
def isEmail (cs : List Char) : Bool :=
  match cutAt '@' cs with
  | some (person, domain) =>
    !person.isEmpty && !domain.contains '@' && domain.contains '.'
      && domain.head? ≠ some '.' && domain.getLast? ≠ some '.'
      && !cs.any isBlank
  | none => false

/-- Is it a letter or digit of any script? -/
def isLetterOrDigit (c : Char) : Bool := isAlphabetic c || isNumeric c

/-- Does a value keep a rule without a length? Unknown rules are never
kept. -/
def keepsNamed (value : List Char) (rule : String) : Bool :=
  match rule with
  | "required" => !(trimChars value).isEmpty
  | "email" => isEmail value
  | "alpha" => value.all isAlphabetic
  | "alphanum" => value.all isLetterOrDigit
  | "numeric" => !value.isEmpty && value.all Char.isDigit
  | "url" => WebAddress.isValid (String.ofList value)
  | _ => false

/-- The two rules that name a length. -/
def leastMark : List Char := "min".toList
def largestMark : List Char := "max".toList

/-- Does a value keep a rule? -/
def keeps (value rule : List Char) : Bool :=
  match cutAt '=' rule with
  | some (name, number) =>
    if name = leastMark then
      match length? number with
      | some n => n ≤ value.length
      | none => false
    else if name = largestMark then
      match length? number with
      | some n => value.length ≤ n
      | none => false
    else keepsNamed value (String.ofList rule)
  | none => keepsNamed value (String.ofList rule)

/-! ## Rule lists -/

/-- The rules of a list, without blanks around them and without empty
ones. -/
def rules (list : List Char) : List (List Char) :=
  ((list.splitOn ',').map trimChars).filter fun rule => !rule.isEmpty

/-- The leftmost rule of a list that a value breaks. -/
def firstFailing? (value list : String) : Option String :=
  ((rules list.toList).find? fun rule => !keeps value.toList rule).map
    String.ofList

/-! ## Names -/

/-- A letter of ASCII, or a digit if those are allowed. -/
def isWordChar (digits : Bool) (c : Char) : Bool :=
  c.isAlpha || (digits && c.isDigit)

/-- Do two spaces stand side by side? -/
def hasDoubleSpace : List Char → Bool
  | a :: b :: rest => (a = ' ' && b = ' ') || hasDoubleSpace (b :: rest)
  | _ => false

/-- Is it a row of words with single spaces between them, of a length in
the given range? -/
def isWords (low high : Nat) (digits : Bool) (name : String) : Bool :=
  let cs := name.toList
  low ≤ cs.length && cs.length ≤ high
    && cs.all (fun c => isWordChar digits c || c = ' ')
    && cs.head? ≠ some ' ' && cs.getLast? ≠ some ' ' && !hasDoubleSpace cs

/-- Is it the name of a user? -/
def isUserName (name : String) : Bool := isWords 3 20 false name

/-- Is it the name of a guild? -/
def isGuildName (name : String) : Bool := isWords 3 30 false name

/-- Is it a rank in a guild? -/
def isGuildRank (name : String) : Bool := isWords 1 20 true name

/-! ## Lists of words -/

/-- Does a text occur in another one? -/
def occursIn (word : List Char) : List Char → Bool
  | [] => word.isEmpty
  | c :: rest => word.isPrefixOf (c :: rest) || occursIn word rest

/-- Does a value hold a word of the blacklist, in lower case? -/
def isBlacklisted (blacklist : List String) (value : String) : Bool :=
  let text := (lowerCase value).toList
  (blacklist.filter (· ≠ "")).any fun word =>
    occursIn (lowerCase word).toList text

/-- Is a name on the list, in any case of ASCII letters? An empty list
allows everything. -/
def isAllowed (list : List String) (name : String) : Bool :=
  list.isEmpty || list.any fun item => sameIgnoringCase item name

end ScriptHost.FormRule
