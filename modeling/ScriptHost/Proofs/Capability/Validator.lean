/-
ScriptHost.Proofs.Capability.Validator — which rules scripts see broken, which
names they find valid, and which words of the blacklist they find.

A value is checked against the rules of a list one after the other, and the
first one that it breaks is reported, without the blanks around it.

The names of users and guilds and the ranks of guilds are rows of words, and
no name may hold a word of the blacklist. A value holds such a word if it
does so with both in lower case. A word that stands in the value in any case
of ASCII letters is therefore found unless a capital sigma in it ends a word
there and not in the blacklist, or the other way around.
-/
import ScriptHost.Capability.Validator
import ScriptHost.Proofs.Script.Action
import ScriptHost.Proofs.Web.FormRule

namespace ScriptHost.ValidatorFunction

variable {F : Type}

open ScriptHost.Action ScriptHost.FormRule

/-! ## Checks -/

/-- What a check returns that asks the host for its settings. -/
def checked (w : World F) (check : HostContext → Bool) :
    Except Abort (List Value) × World F :=
  match w.interpreter.host with
  | some context => (.ok [.bool (check context)], w)
  | none => (.error (.raised (.complaint .noHost)), w)

theorem run_check (check : String → HostContext → Bool) (text : String)
    (w : World F) :
    (do
      let text ← name [.ofText text]
      let context ← Action.host
      pure [.bool (check text context)] : Action F (List Value)).run.run w
      = checked w (check text) := by
  rw [name, run_bind, run_argument_text]
  dsimp only
  rw [run_bind, run_host, checked]
  cases w.interpreter.host <;> rfl

theorem run_blackList (text : String) (w : World F) :
    (blackList.run [.ofText text] : Action F (List Value)).run.run w
      = checked w fun context =>
        isBlacklisted context.config.blacklist text :=
  run_check (fun text context =>
    isBlacklisted context.config.blacklist text) text w

theorem run_validUsername (text : String) (w : World F) :
    (validUsername.run [.ofText text] : Action F (List Value)).run.run w
      = checked w fun context => isUserName text
        && !isBlacklisted context.config.blacklist text :=
  run_check (fun text context => isUserName text
    && !isBlacklisted context.config.blacklist text) text w

theorem run_validGuildName (text : String) (w : World F) :
    (validGuildName.run [.ofText text] : Action F (List Value)).run.run w
      = checked w fun context => isGuildName text
        && !isBlacklisted context.config.blacklist text :=
  run_check (fun text context => isGuildName text
    && !isBlacklisted context.config.blacklist text) text w

theorem run_validGuildRank (text : String) (w : World F) :
    (validGuildRank.run [.ofText text] : Action F (List Value)).run.run w
      = (.ok [.bool (isGuildRank text)], w) := by
  rw [run, name, run_bind, run_argument_text]
  rfl

theorem checked_of_host {w : World F} {context : HostContext}
    (host : w.interpreter.host = some context) (check : HostContext → Bool) :
    checked w check = (.ok [.bool (check context)], w) := by
  rw [checked, host]

/-- A value that passes two checks: the second is that it is not forbidden. -/
theorem checked_and_not (w : World F) (valid : Bool)
    (forbidden : HostContext → Bool) :
    checked w (fun context => valid && !forbidden context)
        = (.ok [.bool true], w)
      ↔ valid = true ∧ checked w forbidden = (.ok [.bool false], w) := by
  unfold checked
  cases w.interpreter.host <;> simp

/-! ## Rules -/

/-- What `validator.validate` returns: whether the value keeps all rules, and
the first one that it breaks. -/
def verdict : Option String → List Value
  | some rule => [.bool false, .ofText rule]
  | none => [.bool true, .nil]

theorem run_validate (value : Value) (list : String) (w : World F) :
    (validate.run [value, .ofText list] : Action F (List Value)).run.run w
      = (match Argument.text value with
        | .ok text => .ok (verdict (firstFailing? text list))
        | .error e => .error (.raised e), w) := by
  have hlist : Argument.text (Argument.nth [value, .ofText list] 1) = .ok list :=
    Argument.text_ofText list
  have hvalue : Argument.nth [value, .ofText list] 0 = value := rfl
  rw [run, name, run_bind, run_argument, hvalue]
  cases Argument.text value with
  | error e => rfl
  | ok text =>
    dsimp only
    rw [run_bind, run_argument, hlist]
    dsimp only
    cases firstFailing? text list <;> rfl

theorem verdict_eq_iff (found : Option String) :
    verdict found = [.bool true, .nil] ↔ found = none := by
  cases found <;> simp [verdict]

/-- **What `validator.validate` returns.** For two rule lists with a comma
between them it returns what it returns for the first one if the value breaks
a rule of that, and else what it returns for the second one. Whether the value
passes is a matter of which rules are stated at all: their order, how often
they stand in the list, the blanks around them and entries of nothing but
blanks make no difference. If a value that is a text does not pass, it returns
false and a rule: the one that its entry states, without the blanks around it,
while the value keeps the rules of all entries in front of that. -/
theorem validate_in_order (value : Value) (w : World F) :
    let outcome (list : String) :=
      (validate.run [value, .ofText list] : Action F (List Value)).run.run w
    let passed := (.ok [.bool true, .nil], w)
    (∀ list list' : String,
      (outcome list = passed → outcome (list ++ "," ++ list') = outcome list')
      ∧ (outcome list ≠ passed →
        outcome (list ++ "," ++ list') = outcome list))
    ∧ (∀ entries entries' : List (List Char),
      (∀ entry ∈ entries ++ entries', ',' ∉ entry) →
      (∀ rule, (∃ entry ∈ entries, States entry rule)
        ↔ ∃ entry ∈ entries', States entry rule) →
      (outcome (listOf entries) = passed
        ↔ outcome (listOf entries') = passed))
    ∧ ∀ text, Argument.text value = .ok text →
      ∀ entries : List (List Char), (∀ entry ∈ entries, ',' ∉ entry) →
        (outcome (listOf entries) = passed
          ∧ ∀ entry ∈ entries, KeepsEntry text.toList entry)
        ∨ ∃ before entry after rule, entries = before ++ entry :: after
          ∧ outcome (listOf entries)
            = (.ok [.bool false, .ofText (String.ofList rule)], w)
          ∧ States entry rule ∧ keeps text.toList rule = false
          ∧ ∀ earlier ∈ before, KeepsEntry text.toList earlier := by
  intro outcome passed
  have hrun (list : String) : outcome list = _ := run_validate value list w
  cases hvalue : Argument.text value with
  | error e =>
    have hraise (list : String) : outcome list = (.error (.raised e), w) := by
      rw [hrun, hvalue]
    simp only [hraise, passed]
    simp
  | ok text =>
    have hok (list : String) :
        outcome list = (.ok (verdict (firstFailing? text list)), w) := by
      rw [hrun, hvalue]
    have hpassed (list : String) :
        outcome list = passed ↔ firstFailing? text list = none := by
      rw [hok, ← verdict_eq_iff]
      exact ⟨fun h => Except.ok.inj (congrArg Prod.fst h), fun h => by rw [h]⟩
    refine ⟨fun list list' => ⟨fun h => ?_, fun h => ?_⟩,
      fun entries entries' comma same => ?_, ?_⟩
    · rw [hok, hok, firstFailing?_append, (hpassed list).mp h, Option.none_or]
    · obtain ⟨rule, hrule⟩ :=
        Option.ne_none_iff_exists'.mp (mt (hpassed list).mpr h)
      rw [hok, hok, firstFailing?_append, hrule, Option.some_or]
    · rw [hpassed, hpassed]
      exact firstFailing?_congr comma same
    · rintro _ ⟨⟩ entries comma
      rcases firstFailing?_firstBroken text comma with
        ⟨hnone, hall⟩ | ⟨before, entry, after, rule, hsplit, hsome, hbroken⟩
      · exact .inl ⟨(hpassed _).mpr hnone, hall⟩
      · refine .inr ⟨before, entry, after, rule, hsplit, ?_, hbroken⟩
        rw [hok, hsome]
        rfl

/-- A rule among blanks that is broken, the same behind a rule that is kept
and in front of another one that is broken, and rules that are kept in two
orders. -/
theorem validate_in_order_ab :
    let w : World Empty := ⟨Interpreter.fresh none, {}⟩
    let outcome (value list : String) :=
      (validate.run [.ofText value, .ofText list] :
        Action Empty (List Value)).run.run w
    outcome "ab" " min=3 " = (.ok [.bool false, .ofText "min=3"], w)
      ∧ outcome "ab" "required, min=3 ,numeric"
        = (.ok [.bool false, .ofText "min=3"], w)
      ∧ outcome "abc" "alpha,min=3" = (.ok [.bool true, .nil], w)
      ∧ outcome "abc" "min=3 , alpha,,min=3" = (.ok [.bool true, .nil], w) := by
  intro w outcome
  have passes {value list : String} (h : firstFailing? value list = none) :
      outcome value list = (.ok [.bool true, .nil], w) := by
    rw [show outcome value list = _ from run_validate _ _ _,
      Argument.text_ofText]
    dsimp only
    rw [h, verdict]
  obtain ⟨inOrder, -, first⟩ := validate_in_order (.ofText "ab") w
  have broken : outcome "ab" " min=3 "
      = (.ok [.bool false, .ofText "min=3"], w) := by
    have hstates : States " min=3 ".toList "min=3".toList :=
      states_iff.mpr (by decide)
    rcases first "ab" (Argument.text_ofText _) [" min=3 ".toList] (by decide)
      with ⟨-, hall⟩ | ⟨before, entry, after, rule, hsplit, hrun, hrule, -⟩
    · exact absurd (hall _ List.mem_cons_self _ hstates) (by decide)
    · cases before with
      | nil =>
        obtain ⟨rfl, -⟩ := List.cons.inj hsplit
        obtain rfl := (states_iff.mp hrule).1
        exact hrun
      | cons e before => exact absurd (congrArg List.length hsplit) (by simp)
  have other : outcome "ab" " min=3 " ≠ (.ok [.bool true, .nil], w) := by
    rw [broken]
    exact fun h => by simpa using congrArg Prod.fst h
  have passed : outcome "abc" "alpha,min=3" = (.ok [.bool true, .nil], w) :=
    passes (by decide +kernel)
  refine ⟨broken, ?_, passed, ?_⟩
  · exact ((inOrder "required" " min=3 ,numeric").1
      (passes (by decide +kernel))).trans
        (((inOrder " min=3 " "numeric").2 other).trans broken)
  · let entries := ["alpha".toList, "min=3".toList]
    let entries' :=
      ["min=3 ".toList, " alpha".toList, "".toList, "min=3".toList]
    have comma : ∀ entry ∈ entries ++ entries', ',' ∉ entry := by decide
    have stated : rules (listOf entries).toList
        = ["alpha".toList, "min=3".toList] := by decide
    have stated' : rules (listOf entries').toList
        = ["min=3".toList, "alpha".toList, "min=3".toList] := by decide
    refine ((validate_in_order (.ofText "abc") w).2.1 entries entries' comma
      fun rule => ?_).mp passed
    obtain ⟨hcomma, hcomma'⟩ := List.forall_mem_append.mp comma
    rw [← mem_rules_listOf hcomma, ← mem_rules_listOf hcomma', stated, stated']
    generalize "alpha".toList = letters, "min=3".toList = least
    simp only [List.mem_cons, List.not_mem_nil, or_false]
    exact ⟨fun h => .inr h, fun h => h.elim .inr id⟩

/-! ## Names -/

/-- **Which names are valid.** The names that pass the checks for a range of
lengths are the rows of words with single spaces between them whose length
lies in it. `validator.validUsername` and `validator.validGuildName` return
true exactly for those of their range that `validator.blackList` returns false
for, and `validator.validGuildRank` for all of its range, where words may have
digits. Where there is a host, all four return true or false for any name. -/
theorem names_are_rows (text : String) (w : World F) :
    let outcome (f : ValidatorFunction) :=
      (f.run [.ofText text] : Action F (List Value)).run.run w
    (∀ low high digits, 1 ≤ low →
      (isWords low high digits text = true
        ↔ IsName low high digits text.toList))
    ∧ (outcome validUsername = (.ok [.bool true], w)
      ↔ IsName 3 20 false text.toList
        ∧ outcome blackList = (.ok [.bool false], w))
    ∧ (outcome validGuildName = (.ok [.bool true], w)
      ↔ IsName 3 30 false text.toList
        ∧ outcome blackList = (.ok [.bool false], w))
    ∧ (outcome validGuildRank = (.ok [.bool true], w)
      ↔ IsName 1 20 true text.toList)
    ∧ (w.interpreter.host.isSome → ∀ f ∈ [blackList, validUsername,
        validGuildName, validGuildRank], ∃ b, outcome f = (.ok [.bool b], w))
    := by
  intro outcome
  have row {low : Nat} (hlow : 1 ≤ low) (high : Nat) (digits : Bool) :=
    isWords_iff hlow high digits text
  have user : isUserName text = true ↔ _ := row (by decide) 20 false
  have guild : isGuildName text = true ↔ _ := row (by decide) 30 false
  have rank : isGuildRank text = true ↔ _ := row (by decide) 20 true
  refine ⟨fun low high digits hlow => row hlow high digits, ?_, ?_, ?_, ?_⟩
  · rw [← user, show outcome _ = _ from run_validUsername text w,
      show outcome _ = _ from run_blackList text w]
    exact checked_and_not w _ _
  · rw [← guild, show outcome _ = _ from run_validGuildName text w,
      show outcome _ = _ from run_blackList text w]
    exact checked_and_not w _ _
  · rw [← rank, show outcome _ = _ from run_validGuildRank text w]
    exact ⟨fun h => by simpa using congrArg Prod.fst h, fun h => by rw [h]⟩
  · intro hhost
    obtain ⟨context, hcontext⟩ := Option.isSome_iff_exists.mp hhost
    simp only [List.forall_mem_cons]
    exact ⟨⟨_, (run_blackList text w).trans (checked_of_host hcontext _)⟩,
      ⟨_, (run_validUsername text w).trans (checked_of_host hcontext _)⟩,
      ⟨_, (run_validGuildName text w).trans (checked_of_host hcontext _)⟩,
      ⟨_, run_validGuildRank text w⟩, by simp⟩

/-- Two words with one space between them, the same with two, and a rank with
a digit. -/
theorem names_are_rows_bob :
    let context : HostContext := { config := { blacklist := ["admin"] } }
    let w : World Empty := ⟨Interpreter.fresh (some context), {}⟩
    let outcome (f : ValidatorFunction) (text : String) :=
      (f.run [.ofText text] : Action Empty (List Value)).run.run w
    outcome validUsername "Sir Bob" = (.ok [.bool true], w)
      ∧ ¬ IsName 3 20 false "Sir  Bob".toList
      ∧ outcome validGuildRank "Rank 2" = (.ok [.bool true], w)
      ∧ ∃ b, outcome validGuildName "Admins" = (.ok [.bool b], w) := by
  intro context w outcome
  have bob : IsName 3 20 false "Sir Bob".toList := by
    have first : IsWord false ['S', 'i', 'r'] := ⟨by simp, by simp⟩
    have second : IsWord false ['B', 'o', 'b'] := ⟨by simp, by simp⟩
    exact ⟨⟨[['S', 'i', 'r'], ['B', 'o', 'b']], by simp,
      by simp [first, second], by decide⟩, by decide, by decide⟩
  have rank : IsName 1 20 true "Rank 2".toList := by
    have first : IsWord true ['R', 'a', 'n', 'k'] := ⟨by simp, by simp⟩
    have second : IsWord true ['2'] := ⟨by simp, by simp⟩
    exact ⟨⟨[['R', 'a', 'n', 'k'], ['2']], by simp, by simp [first, second],
      by decide⟩, by decide, by decide⟩
  have allowed : isBlacklisted context.config.blacklist "Sir Bob" = false := by
    decide +kernel
  have unlisted : outcome blackList "Sir Bob" = (.ok [.bool false], w) :=
    (run_blackList "Sir Bob" w).trans (by rw [checked, ← allowed]; rfl)
  refine ⟨(names_are_rows "Sir Bob" w).2.1.mpr ⟨bob, unlisted⟩, fun h => ?_,
    (names_are_rows "Rank 2" w).2.2.2.1.mpr rank,
    (names_are_rows "Admins" w).2.2.2.2 rfl _ (by simp)⟩
  have hrow := ((names_are_rows "Sir  Bob" w).1 3 20 false (by decide)).mpr h
  exact absurd hrow (by decide)

/-! ## Words of the blacklist -/

/-- **Which words `validator.blackList` finds.** It returns true exactly for
the values that hold a word of the blacklist, the value and the word both in
lower case. At a place where a word stands in any case of its ASCII letters,
the value holds in lower case what its neighbours make of the word. That is
the word in lower case exactly if each capital sigma in it ends a word there
just where it ends one in the word alone, and then the word is found. This is
so for all words without a capital sigma, and for all words at a place with
no letters next to it. -/
theorem blackList_finds (value : String) {w : World F} {context : HostContext}
    (host : w.interpreter.host = some context) :
    ∃ b, (blackList.run [.ofText value] : Action F (List Value)).run.run w
        = (.ok [.bool b], w)
      ∧ (b = true ↔ ∃ word ∈ context.config.blacklist, word ≠ ""
        ∧ (lowerCase word).toList <:+: (lowerCase value).toList)
      ∧ ∀ word ∈ context.config.blacklist, word ≠ "" →
        ∀ front found back : String, value = front ++ found ++ back →
        sameIgnoringCase found word = true →
        let before := front.toList.reverse
        let after := back.toList
        (lowerWithin before word.toList after
            <:+: (lowerCase value).toList)
          ∧ (Steady before word.toList after
            ↔ lowerWithin before word.toList after = (lowerCase word).toList)
          ∧ (Steady before word.toList after → b = true)
          ∧ ('Σ' ∉ word.toList → b = true)
          ∧ (meetsCased before = false → meetsCased after = false →
            b = true) := by
  refine ⟨isBlacklisted context.config.blacklist value,
    (run_blackList value w).trans (checked_of_host host _),
    isBlacklisted_iff _ value, ?_⟩
  rintro word hword hne front found back rfl hsame before after
  have found (hsteady : Steady before word.toList after) :=
    isBlacklisted_of_steady hsame front back hword hne hsteady
  refine ⟨lowerWithin_occurrence hsame front back, ?_, found,
    fun hsigma => found (.of_not_mem hsigma),
    fun hbefore hafter => found (.of_apart hbefore hafter)⟩
  rw [Steady.iff_lowerWithin, lowerCase, String.toList_ofList]

/-- A word in capitals inside another one, and a word that ends in a capital
sigma behind a space. -/
theorem blackList_finds_gm :
    let context : HostContext := { config := { blacklist := ["gm", "ΑΣ"] } }
    let w : World Empty := ⟨Interpreter.fresh (some context), {}⟩
    let outcome (text : String) :=
      (blackList.run [.ofText text] : Action Empty (List Value)).run.run w
    outcome "xGMx" = (.ok [.bool true], w)
      ∧ outcome "x ΑΣ" = (.ok [.bool true], w) := by
  intro context w outcome
  obtain ⟨b, hb, -, finds⟩ := blackList_finds "xGMx" (w := w) rfl
  obtain rfl := (finds "gm" (by decide) (by decide) "x" "GM" "x" (by decide)
    (by decide)).2.2.2.1 (by decide)
  obtain ⟨c, hc, -, finds⟩ := blackList_finds "x ΑΣ" (w := w) rfl
  obtain rfl := (finds "ΑΣ" (by decide) (by decide) "x " "ΑΣ" "" (by decide)
    (by decide)).2.2.2.2 (meetsCased_space _) rfl
  exact ⟨hb, hc⟩

/-- A word of the blacklist that stands in a value as it is written, and is
not found: its capital sigma ends a word only in the list. -/
theorem blackList_misses_sigma :
    let context : HostContext := { config := { blacklist := ["ΑΣ"] } }
    let w : World Empty := ⟨Interpreter.fresh (some context), {}⟩
    "ΑΣΑ" = "" ++ "ΑΣ" ++ "Α"
      ∧ (blackList.run [.ofText "ΑΣΑ"] : Action Empty (List Value)).run.run w
        = (.ok [.bool false], w) := by
  intro context w
  have alpha : meetsCased ['Α'] = true := by
    rw [meetsCased_cons, inRanges_eq_any, inRanges_eq_any]
    decide +kernel
  have small : lowerChars 'Α' = ['α'] := by decide +kernel
  have nothing : meetsCased [] = false := rfl
  have loweredWord : lowerCase "ΑΣ" = "ας" := by
    simp [lowerCase, lowerFrom, alpha, small, nothing]
  have loweredValue : lowerCase "ΑΣΑ" = "ασα" := by
    simp [lowerCase, lowerFrom, alpha, small]
  have missed : isBlacklisted context.config.blacklist "ΑΣΑ" = false := by
    rw [← Bool.not_eq_true, isBlacklisted_iff]
    rintro ⟨word, hword, -, hinfix⟩
    obtain rfl := List.mem_singleton.mp hword
    rw [loweredWord, loweredValue] at hinfix
    exact absurd hinfix (by decide)
  exact ⟨by decide,
    (run_blackList "ΑΣΑ" w).trans (by rw [checked, ← missed]; rfl)⟩

end ScriptHost.ValidatorFunction
