/-
ScriptHost.Proofs.Web.FormRule — which rules of a list a value breaks, which
names are rows of words, and which values hold a word of the blacklist.

A rule list is entries with commas between them. An entry states the rule
that blanks pad in it, or none if it is nothing but blanks. `firstFailing?`
looks at the rules in their order: in two lists that are put together, at
those of the second one if the value keeps all of the first
(`firstFailing?_append`). `firstFailing?_firstBroken` says which rule it gives.

A name is checked character by character: its alphabet, its ends, and that no
two spaces stand side by side. `spaced_cut` says what these checks mean for
a name that is cut at its first space, and with it `isWords_iff` turns them
into a row of words with single spaces between them.

A word of the blacklist is looked for in lower case (`isBlacklisted_iff`),
and so it is found wherever it is steady between its neighbours
(`isBlacklisted_of_steady`).
-/
import ScriptHost.Proofs.Text.LowerCase
import ScriptHost.Proofs.Text.Trim
import ScriptHost.Web.FormRule

namespace ScriptHost.FormRule

/-! ## Rule lists -/

/-- The rule list with the given entries. -/
def listOf (entries : List (List Char)) : String :=
  String.ofList ([','].intercalate entries)

/-- An entry of a rule list states a rule, with any blanks around it. -/
def States (entry rule : List Char) : Prop :=
  Pads isBlank entry rule ∧ rule ≠ []

/-- The value keeps the rule of an entry, if it states one. -/
def KeepsEntry (value entry : List Char) : Prop :=
  ∀ rule, States entry rule → keeps value rule = true

theorem states_iff {entry rule : List Char} :
    States entry rule ↔ trimChars entry = rule ∧ rule ≠ [] := by
  rw [States, trimChars_eq, unpad_eq_iff]

/-- Of an entry that is nothing but blanks there is nothing to keep. -/
theorem keepsEntry_blank {entry : List Char} (value : List Char)
    (h : trimChars entry = []) : KeepsEntry value entry := by
  intro rule hstates
  obtain ⟨rfl, hne⟩ := states_iff.mp hstates
  exact absurd h hne

theorem keepsEntry_iff {value entry rule : List Char}
    (h : States entry rule) :
    KeepsEntry value entry ↔ keeps value rule = true := by
  refine ⟨fun hkeeps => hkeeps rule h, fun hkeeps rule' h' => ?_⟩
  obtain ⟨rfl, -⟩ := states_iff.mp h
  obtain ⟨rfl, -⟩ := states_iff.mp h'
  exact hkeeps

theorem rules_append (list list' : List Char) :
    rules (list ++ ',' :: list') = rules list ++ rules list' := by
  rw [rules, List.splitOn_append_cons_self, List.map_append,
    List.filter_append, ← rules, ← rules]

theorem rules_listOf {entries : List (List Char)}
    (comma : ∀ entry ∈ entries, ',' ∉ entry) :
    rules (listOf entries).toList
      = (entries.map trimChars).filter fun rule => !rule.isEmpty := by
  rw [listOf, String.toList_ofList, rules]
  cases entries with
  | nil => rfl
  | cons entry entries =>
    rw [List.splitOn_intercalate ',' comma (by simp)]

/-- **In two lists that are put together**, the rules of the second one come
behind those of the first. -/
theorem firstFailing?_append (value list list' : String) :
    firstFailing? value (list ++ "," ++ list')
      = (firstFailing? value list).or (firstFailing? value list') := by
  have hchars : (list ++ "," ++ list').toList
      = list.toList ++ ',' :: list'.toList := by
    simp
  rw [firstFailing?, hchars, rules_append, List.find?_append, Option.map_or,
    ← firstFailing?, ← firstFailing?]

/-- What was found is the first rule that the value breaks. Either it keeps
all and nothing was found, or the rule stands in an entry in front of which it
keeps all. -/
def FirstBroken (value : List Char) (entries : List (List Char))
    (found : Option String) : Prop :=
  (found = none ∧ ∀ entry ∈ entries, KeepsEntry value entry)
    ∨ ∃ before entry after rule, entries = before ++ entry :: after
      ∧ found = some (String.ofList rule)
      ∧ States entry rule ∧ keeps value rule = false
      ∧ ∀ earlier ∈ before, KeepsEntry value earlier

/-- An entry that is kept is passed over. -/
theorem FirstBroken.pass {value entry : List Char}
    {entries : List (List Char)} {found : Option String}
    (h : FirstBroken value entries found) (kept : KeepsEntry value entry) :
    FirstBroken value (entry :: entries) found := by
  rcases h with
    ⟨hnone, hall⟩ | ⟨before, e, after, rule, rfl, hfound, hstates, hbroken, hall⟩
  · exact .inl ⟨hnone, List.forall_mem_cons.mpr ⟨kept, hall⟩⟩
  · exact .inr ⟨entry :: before, e, after, rule, rfl, hfound, hstates, hbroken,
      List.forall_mem_cons.mpr ⟨kept, hall⟩⟩

section Entries

variable {value : String} {entries entries' : List (List Char)}

/-- **Which rule is the first that a value breaks.** -/
theorem firstFailing?_firstBroken (value : String)
    (comma : ∀ entry ∈ entries, ',' ∉ entry) :
    FirstBroken value.toList entries
      (firstFailing? value (listOf entries)) := by
  rw [firstFailing?, rules_listOf comma]
  clear comma
  induction entries with
  | nil => exact .inl ⟨rfl, by simp⟩
  | cons entry entries ih =>
    rw [List.map_cons, List.filter_cons]
    by_cases hblank : trimChars entry = []
    · rw [hblank]
      exact ih.pass (keepsEntry_blank _ hblank)
    · have hstates : States entry (trimChars entry) :=
        states_iff.mpr ⟨rfl, hblank⟩
      rw [if_pos (by simpa using hblank)]
      cases hkeeps : keeps value.toList (trimChars entry) with
      | true =>
        rw [List.find?_cons_of_neg (by simp [hkeeps])]
        exact ih.pass ((keepsEntry_iff hstates).mpr hkeeps)
      | false =>
        refine .inr ⟨[], entry, entries, _, rfl, ?_, hstates, hkeeps, by simp⟩
        rw [List.find?_cons_of_pos (by simp [hkeeps])]
        rfl

/-- The rules of a list are those that its entries state. -/
theorem mem_rules_listOf {rule : List Char}
    (comma : ∀ entry ∈ entries, ',' ∉ entry) :
    rule ∈ rules (listOf entries).toList
      ↔ ∃ entry ∈ entries, States entry rule := by
  simp only [rules_listOf comma, List.mem_filter, List.mem_map, states_iff,
    Bool.not_eq_true', List.isEmpty_eq_false_iff]
  exact ⟨fun ⟨⟨entry, hentry, htrim⟩, hne⟩ => ⟨entry, hentry, htrim, hne⟩,
    fun ⟨entry, hentry, htrim, hne⟩ => ⟨⟨entry, hentry, htrim⟩, hne⟩⟩

/-- Whether a value passes is a matter of which rules are stated at all. -/
theorem firstFailing?_congr (comma : ∀ entry ∈ entries ++ entries', ',' ∉ entry)
    (same : ∀ rule, (∃ entry ∈ entries, States entry rule)
      ↔ ∃ entry ∈ entries', States entry rule) :
    firstFailing? value (listOf entries) = none
      ↔ firstFailing? value (listOf entries') = none := by
  obtain ⟨hcomma, hcomma'⟩ := List.forall_mem_append.mp comma
  simp only [firstFailing?, Option.map_eq_none_iff, List.find?_eq_none,
    mem_rules_listOf hcomma, mem_rules_listOf hcomma', same]

end Entries

/-! ## Words -/

/-- A word: one or more letters of ASCII, and digits if those are allowed. -/
structure IsWord (digits : Bool) (cs : List Char) : Prop where
  ne_nil : cs ≠ []
  char : ∀ c ∈ cs, ('a' ≤ c ∧ c ≤ 'z') ∨ ('A' ≤ c ∧ c ≤ 'Z')
    ∨ (digits = true ∧ '0' ≤ c ∧ c ≤ '9')

/-- A name: one or more words with single spaces between them, of a length in
the given range, spaces included. -/
def IsName (low high : Nat) (digits : Bool) (cs : List Char) : Prop :=
  (∃ words : List (List Char), words ≠ [] ∧ (∀ word ∈ words, IsWord digits word)
    ∧ cs = [' '].intercalate words)
  ∧ low ≤ cs.length ∧ cs.length ≤ high

theorem isWordChar_iff {digits : Bool} {c : Char} :
    isWordChar digits c = true
      ↔ ('a' ≤ c ∧ c ≤ 'z') ∨ ('A' ≤ c ∧ c ≤ 'Z')
        ∨ (digits = true ∧ '0' ≤ c ∧ c ≤ '9') := by
  have hlower : c.isLower = true ↔ 'a' ≤ c ∧ c ≤ 'z' :=
    Bool.and_eq_true_iff.trans (and_congr decide_eq_true_iff decide_eq_true_iff)
  have hupper : c.isUpper = true ↔ 'A' ≤ c ∧ c ≤ 'Z' := decide_eq_true_iff
  have hdigit : c.isDigit = true ↔ '0' ≤ c ∧ c ≤ '9' :=
    Bool.and_eq_true_iff.trans (and_congr decide_eq_true_iff decide_eq_true_iff)
  have halpha : c.isAlpha = true ↔ c.isUpper = true ∨ c.isLower = true :=
    Bool.or_eq_true_iff
  rw [isWordChar, Bool.or_eq_true, Bool.and_eq_true, halpha, hlower, hupper,
    hdigit, or_assoc, or_left_comm]

theorem not_isWordChar_space (digits : Bool) :
    isWordChar digits ' ' = false := by
  cases digits <;> decide

/-! ## Spaces -/

/-- No space at either end, and no two side by side. -/
structure Spaced (cs : List Char) : Prop where
  head : cs.head? ≠ some ' '
  last : cs.getLast? ≠ some ' '
  single : hasDoubleSpace cs = false

section Spaces

variable {word : List Char}

theorem hasDoubleSpace_cons {c : Char} (hc : c ≠ ' ') (rest : List Char) :
    hasDoubleSpace (c :: rest) = hasDoubleSpace rest := by
  cases rest with
  | nil => rfl
  | cons d rest => simp [hasDoubleSpace, hc]

theorem hasDoubleSpace_word (hword : ∀ c ∈ word, c ≠ ' ')
    (rest : List Char) :
    hasDoubleSpace (word ++ rest) = hasDoubleSpace rest := by
  induction word with
  | nil => rfl
  | cons c word ih =>
    obtain ⟨hc, hword⟩ := List.forall_mem_cons.mp hword
    rw [List.cons_append, hasDoubleSpace_cons hc, ih hword]

theorem hasDoubleSpace_space (rest : List Char) :
    hasDoubleSpace (' ' :: rest) = false
      ↔ rest.head? ≠ some ' ' ∧ hasDoubleSpace rest = false := by
  cases rest with
  | nil => simp [hasDoubleSpace]
  | cons c rest => simp [hasDoubleSpace]

/-- A word alone has no spaces. -/
theorem spaced_word (hword : ∀ c ∈ word, c ≠ ' ') : Spaced word where
  head := fun h => hword ' ' (List.mem_of_head? h) rfl
  last := fun h => hword ' ' (List.mem_of_getLast? h) rfl
  single := by
    rw [← List.append_nil word, hasDoubleSpace_word hword]
    rfl

/-- **A text that is cut at its first space.** -/
theorem spaced_cut (hword : ∀ c ∈ word, c ≠ ' ') (rest : List Char) :
    Spaced (word ++ ' ' :: rest) ↔ word ≠ [] ∧ rest ≠ [] ∧ Spaced rest := by
  have hhead : (word ++ ' ' :: rest).head? ≠ some ' ' ↔ word ≠ [] := by
    cases word with
    | nil => simp
    | cons c word => simpa using hword c (by simp)
  have hlast : (word ++ ' ' :: rest).getLast? ≠ some ' '
      ↔ rest ≠ [] ∧ rest.getLast? ≠ some ' ' := by
    cases rest with
    | nil => simp
    | cons c rest => simp [List.getLast?_cons_cons]
  have hsingle : hasDoubleSpace (word ++ ' ' :: rest) = false
      ↔ rest.head? ≠ some ' ' ∧ hasDoubleSpace rest = false := by
    rw [hasDoubleSpace_word hword, hasDoubleSpace_space]
  constructor
  · rintro ⟨head, last, single⟩
    obtain ⟨hne, last⟩ := hlast.mp last
    obtain ⟨head', single⟩ := hsingle.mp single
    exact ⟨hhead.mp head, hne, head', last, single⟩
  · rintro ⟨hword, hrest, head, last, single⟩
    exact ⟨hhead.mpr hword, hlast.mpr ⟨hrest, last⟩, hsingle.mpr ⟨head, single⟩⟩

end Spaces

/-! ## Rows of words -/

theorem IsWord.ne_space {digits : Bool} {word : List Char}
    (h : IsWord digits word) : ∀ c ∈ word, c ≠ ' ' := by
  rintro c hc rfl
  have hspace := isWordChar_iff.mpr (h.char ' ' hc)
  rw [not_isWordChar_space] at hspace
  cases hspace

/-- Characters of words and spaces. -/
def Lettered (digits : Bool) (cs : List Char) : Prop :=
  ∀ c ∈ cs, isWordChar digits c = true ∨ c = ' '

theorem intercalate_row (word next : List Char) (words : List (List Char)) :
    [' '].intercalate (word :: next :: words)
      = word ++ ' ' :: [' '].intercalate (next :: words) := by
  rw [List.intercalate_cons_cons, List.append_assoc, List.singleton_append]

/-- Words with single spaces between them keep every check. -/
theorem spaced_intercalate {digits : Bool} {words : List (List Char)}
    (hne : words ≠ []) (hwords : ∀ word ∈ words, IsWord digits word) :
    [' '].intercalate words ≠ [] ∧ Lettered digits ([' '].intercalate words)
      ∧ Spaced ([' '].intercalate words) := by
  induction words with
  | nil => exact absurd rfl hne
  | cons word words ih =>
    obtain ⟨hword, hwords⟩ := List.forall_mem_cons.mp hwords
    have hchars : Lettered digits word :=
      fun c hc => .inl (isWordChar_iff.mpr (hword.char c hc))
    cases words with
    | nil =>
      rw [List.intercalate_singleton]
      exact ⟨hword.ne_nil, hchars, spaced_word hword.ne_space⟩
    | cons next words =>
      obtain ⟨hrest, hletters, hspaced⟩ := ih (by simp) hwords
      rw [intercalate_row]
      refine ⟨by simp, ?_, (spaced_cut hword.ne_space _).mpr
        ⟨hword.ne_nil, hrest, hspaced⟩⟩
      intro c hc
      rcases List.mem_append.mp hc with hc | hc
      · exact hchars c hc
      · rcases List.mem_cons.mp hc with rfl | hc
        · exact .inr rfl
        · exact hletters c hc

/-- A text that keeps every check falls into words. -/
theorem exists_words {digits : Bool} {cs : List Char} (hne : cs ≠ [])
    (hletters : Lettered digits cs) (hspaced : Spaced cs) :
    ∃ words : List (List Char), words ≠ []
      ∧ (∀ word ∈ words, IsWord digits word)
      ∧ cs = [' '].intercalate words := by
  induction hn : cs.length using Nat.strongRecOn generalizing cs with
  | ind n ih =>
    subst hn
    have isWord {word : List Char} (hsub : word ⊆ cs) (hne : word ≠ [])
        (hfree : ' ' ∉ word) : IsWord digits word :=
      ⟨hne, fun c hc => isWordChar_iff.mp ((hletters c (hsub hc)).resolve_right
        (ne_of_mem_of_not_mem hc hfree))⟩
    by_cases hspace : ' ' ∈ cs
    · obtain ⟨word, rest, rfl, hfree⟩ := List.eq_append_cons_of_mem hspace
      obtain ⟨hword, hrest, hspaced⟩ := (spaced_cut
        (fun c hc => ne_of_mem_of_not_mem hc hfree) rest).mp hspaced
      obtain ⟨words, hwords, hall, rfl⟩ := ih rest.length
        (by rw [List.length_append, List.length_cons]; omega) hrest
        (fun c hc => hletters c (by simp [hc])) hspaced rfl
      obtain ⟨next, words, rfl⟩ := List.exists_cons_of_ne_nil hwords
      exact ⟨word :: next :: words, by simp,
        List.forall_mem_cons.mpr ⟨isWord (by simp) hword hfree, hall⟩,
        (intercalate_row word next words).symm⟩
    · exact ⟨[cs], by simp, by simpa using isWord (by simp) hne hspace,
        by simp⟩

/-- **The checks of a name say that it is a row of words.** -/
theorem isWords_iff {low : Nat} (hlow : 1 ≤ low) (high : Nat) (digits : Bool)
    (name : String) :
    isWords low high digits name = true
      ↔ IsName low high digits name.toList := by
  have hchecks : isWords low high digits name = true
      ↔ (low ≤ name.toList.length ∧ name.toList.length ≤ high)
        ∧ Lettered digits name.toList ∧ Spaced name.toList := by
    simp only [isWords, Bool.and_eq_true, decide_eq_true_eq, List.all_eq_true,
      Bool.or_eq_true, Bool.not_eq_true', and_assoc]
    constructor
    · rintro ⟨hlow, hhigh, hletters, head, last, single⟩
      exact ⟨hlow, hhigh, hletters, head, last, single⟩
    · rintro ⟨hlow, hhigh, hletters, head, last, single⟩
      exact ⟨hlow, hhigh, hletters, head, last, single⟩
  rw [hchecks, IsName]
  constructor
  · rintro ⟨hlength, hletters, hspaced⟩
    have hne : name.toList ≠ [] :=
      List.length_pos_iff.mp (Nat.lt_of_lt_of_le hlow hlength.1)
    exact ⟨exists_words hne hletters hspaced, hlength⟩
  · rintro ⟨⟨words, hne, hwords, hjoin⟩, hlength⟩
    obtain ⟨-, hletters, hspaced⟩ := spaced_intercalate hne hwords
    rw [hjoin]
    exact ⟨hjoin ▸ hlength, hletters, hspaced⟩

/-! ## Lists of words -/

theorem occursIn_iff (word cs : List Char) :
    occursIn word cs = true ↔ word <:+: cs := by
  induction cs with
  | nil => rw [occursIn, List.isEmpty_iff, List.infix_nil]
  | cons c cs ih =>
    rw [occursIn, Bool.or_eq_true, ih, List.isPrefixOf_iff_prefix,
      List.infix_cons_iff]

/-- A value is forbidden if it holds a word of the list, both in lower
case. -/
theorem isBlacklisted_iff (blacklist : List String) (value : String) :
    isBlacklisted blacklist value = true
      ↔ ∃ word ∈ blacklist, word ≠ ""
        ∧ (lowerCase word).toList <:+: (lowerCase value).toList := by
  simp only [isBlacklisted, List.any_eq_true, List.mem_filter,
    decide_eq_true_eq, occursIn_iff, and_assoc]

section Occurrence

variable {word found : String} (hsame : sameIgnoringCase found word = true)
  (front back : String)
include hsame

/-- What a value holds in lower case at the place of an occurrence. -/
theorem lowerWithin_occurrence :
    lowerWithin front.toList.reverse word.toList back.toList
      <:+: (lowerCase (front ++ found ++ back)).toList := by
  rw [← lowerWithin_of_toLower_eq (of_decide_eq_true hsame), lowerCase,
    String.toList_ofList, String.toList_append, String.toList_append]
  exact lowerWithin_infix _ _ _

/-- **A word is found** in any case of its letters of ASCII, wherever it keeps
its lower case. -/
theorem isBlacklisted_of_steady {blacklist : List String}
    (hword : word ∈ blacklist) (hne : word ≠ "")
    (hsteady : Steady front.toList.reverse word.toList back.toList) :
    isBlacklisted blacklist (front ++ found ++ back) = true := by
  refine (isBlacklisted_iff _ _).mpr ⟨word, hword, hne, ?_⟩
  have hinfix := lowerWithin_occurrence hsame front back
  rw [Steady.iff_lowerWithin.mp hsteady] at hinfix
  rwa [lowerCase, String.toList_ofList]

end Occurrence

end ScriptHost.FormRule
