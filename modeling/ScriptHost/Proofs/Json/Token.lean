/-
ScriptHost.Proofs.Json.Token — words of JSON text that were written are cut
as they were.

A word of letters or a number ends only where something else stands, so what
follows counts (`Apart`). `Scans ts` says that the text of `ts` gives `ts`
back, whatever follows that stands apart. Marks are apart from everything,
so two rows of words with a mark between them scan if each of them does
(`Scans.mark`); texts are closed by their quotes, character by character
(`scanFrom?_escape`).
-/
import ScriptHost.Json.Token
import ScriptHost.Proofs.Json.Number

namespace ScriptHost.Json.Token

/-! ## Steps -/

theorem scanFrom?_cons {mode mode' : Mode} {c : Char} {tokens : List Token}
    (h : step? mode c = some (tokens, mode')) (rest : List Char) :
    scanFrom? mode (c :: rest)
      = (scanFrom? mode' rest).map (tokens ++ ·) := by
  rw [scanFrom?, h]

/-- A character that ends nothing. -/
theorem scanFrom?_inside {mode mode' : Mode} {c : Char}
    (h : step? mode c = some ([], mode')) (rest : List Char) :
    scanFrom? mode (c :: rest) = scanFrom? mode' rest := by
  rw [scanFrom?_cons h]
  cases scanFrom? mode' rest <;> rfl

/-! ## Words and numbers -/

/-- What stands behind a word or number and does not continue it. -/
def Apart (rest : List Char) : Prop :=
  ∀ c ∈ rest.head?, isWordChar c = false ∧ isNumberChar c = false

theorem apart_nil : Apart [] := nofun

theorem apart_cons {c : Char} (word : isWordChar c = false)
    (number : isNumberChar c = false) (rest : List Char) :
    Apart (c :: rest) := by
  intro d hd
  obtain rfl : c = d := by simpa using hd
  exact ⟨word, number⟩

/-- In this mode characters are gathered until one does not continue them,
and are then read as one token. -/
structure Gathers (mode : List Char → Mode) (continues : Char → Bool)
    (read : List Char → Option Token) : Prop where
  step : ∀ done c, step? (mode done) c
    = if continues c then some ([], mode (c :: done))
      else do
        let token ← read done.reverse
        let (tokens, after) ← start? c
        pure (token :: tokens, after)
  finish : ∀ done, finish? (mode done) = (read done.reverse).map ([·])

theorem gathers_word : Gathers .word isWordChar ofWord? :=
  ⟨fun _ _ => rfl, fun _ => rfl⟩

theorem gathers_number : Gathers .number isNumberChar ofNumber? :=
  ⟨fun _ _ => rfl, fun _ => rfl⟩

section Gathers

variable {mode : List Char → Mode} {continues : Char → Bool}
  {read : List Char → Option Token}

theorem Gathers.inside (g : Gathers mode continues read) {cs : List Char}
    (inside : ∀ c ∈ cs, continues c = true) (rest : List Char) :
    ∀ done, scanFrom? (mode done) (cs ++ rest)
      = scanFrom? (mode (cs.reverse ++ done)) rest := by
  induction cs with
  | nil => exact fun done => rfl
  | cons c cs ih =>
    intro done
    obtain ⟨hc, hcs⟩ := List.forall_mem_cons.mp inside
    rw [List.cons_append,
      scanFrom?_inside (by rw [g.step, if_pos hc]) (cs ++ rest), ih hcs,
      List.reverse_cons, List.append_assoc]
    rfl

theorem Gathers.ends (g : Gathers mode continues read) {done : List Char}
    {t : Token} (reads : read done.reverse = some t) {rest : List Char}
    (ends : ∀ c ∈ rest.head?, continues c = false) :
    scanFrom? (mode done) rest
      = (scanFrom? .between rest).map ([t] ++ ·) := by
  cases rest with
  | nil => rw [scanFrom?, g.finish, reads]; rfl
  | cons c rest =>
    have hc : continues c = false := ends c rfl
    have hstep : step? (mode done) c
        = (start? c).map fun p => (t :: p.1, p.2) := by
      rw [g.step, hc, reads]
      cases start? c <;> rfl
    have hbetween : step? .between c = start? c := rfl
    rw [scanFrom?, scanFrom?, hstep, hbetween]
    cases start? c with
    | none => rfl
    | some p =>
      obtain ⟨tokens, after⟩ := p
      cases h : scanFrom? after rest <;> simp [h]

/-- Gathered characters are one token. -/
theorem Gathers.scan (g : Gathers mode continues read) {first : Char}
    {cs : List Char} {t : Token}
    (starts : step? .between first = some ([], mode [first]))
    (inside : ∀ c ∈ cs, continues c = true)
    (reads : read (first :: cs) = some t) {rest : List Char}
    (ends : ∀ c ∈ rest.head?, continues c = false) :
    scanFrom? .between (first :: cs ++ rest)
      = (scanFrom? .between rest).map ([t] ++ ·) := by
  rw [List.cons_append, scanFrom?_inside starts, g.inside inside]
  exact g.ends (by simpa using reads) ends

end Gathers

/-! ## Texts -/

section Texts

variable {c : Char} {done : List Char}

/-- A letter behind a backslash is the character that it stands for. -/
theorem scanFrom?_letter {letter : Char} (unit : letter ≠ 'u')
    (stands : unescape? letter = some c) (rest : List Char) :
    scanFrom? (.text done) ('\\' :: letter :: rest)
      = scanFrom? (.text (c :: done)) rest := by
  have hmark : step? (.text done) '\\' = some ([], .escaped done) := rfl
  have hletter : step? (.escaped done) letter
      = some ([], .text (c :: done)) := by
    rw [step?, if_neg unit, stands]
    rfl
  rw [scanFrom?_inside hmark, scanFrom?_inside hletter]

theorem hexValue?_hexDigit : ∀ d < 16, hexValue? (hexDigit d) = some d := by
  decide

/-- A control character may be its number. -/
theorem scanFrom?_unit (control : c.toNat < 0x20) (rest : List Char) :
    scanFrom? (.text done) ('\\' :: 'u' :: '0' :: '0'
        :: hexDigit (c.toNat / 16) :: hexDigit (c.toNat % 16) :: rest)
      = scanFrom? (.text (c :: done)) rest := by
  have hmark : step? (.text done) '\\' = some ([], .escaped done) := rfl
  have hunit : step? (.escaped done) 'u'
      = some ([], .unit done none 4 0) := rfl
  have hfirst : step? (.unit done none 4 0) '0'
      = some ([], .unit done none 3 0) := rfl
  have hsecond : step? (.unit done none 3 0) '0'
      = some ([], .unit done none 2 0) := rfl
  have hthird : step? (.unit done none 2 0) (hexDigit (c.toNat / 16))
      = some ([], .unit done none 1 (c.toNat / 16)) := by
    rw [step?, hexValue?_hexDigit _ (by omega)]
    simp
  have hnumber : c.toNat / 16 * 16 + c.toNat % 16 = c.toNat := by omega
  have hlast : step? (.unit done none 1 (c.toNat / 16))
      (hexDigit (c.toNat % 16)) = some ([], .text (c :: done)) := by
    rw [step?, hexValue?_hexDigit _ (by omega)]
    simp only [Nat.le_refl, if_true, hnumber, finishUnit?]
    rw [if_neg (by omega), if_neg (by omega), Char.ofNat_toNat]
    rfl
  rw [scanFrom?_inside hmark, scanFrom?_inside hunit,
    scanFrom?_inside hfirst, scanFrom?_inside hsecond,
    scanFrom?_inside hthird, scanFrom?_inside hlast]

/-- An escaped character is read as the character. -/
theorem scanFrom?_escape (c : Char) (done rest : List Char) :
    scanFrom? (.text done) (escape c ++ rest)
      = scanFrom? (.text (c :: done)) rest := by
  unfold escape
  by_cases hquote : c = '"'
  · subst hquote
    exact scanFrom?_letter (by decide) rfl rest
  by_cases hslash : c = '\\'
  · subst hslash
    exact scanFrom?_letter (by decide) rfl rest
  rw [if_neg hquote, if_neg hslash]
  split
  · subst c
    exact scanFrom?_letter (by decide) rfl rest
  split
  · subst c
    exact scanFrom?_letter (by decide) rfl rest
  split
  · subst c
    exact scanFrom?_letter (by decide) rfl rest
  split
  · subst c
    exact scanFrom?_letter (by decide) rfl rest
  split
  · subst c
    exact scanFrom?_letter (by decide) rfl rest
  split
  · rename_i control
    exact scanFrom?_unit control rest
  · rename_i visible
    refine scanFrom?_inside ?_ rest
    rw [step?, if_neg hquote, if_neg hslash, if_neg visible]

end Texts

/-- **A text is closed by its quotes.** -/
theorem scanFrom?_quoted (s : String) (rest : List Char) :
    scanFrom? .between (quoted s ++ rest)
      = (scanFrom? .between rest).map ([.str s] ++ ·) := by
  have key : ∀ (cs done : List Char),
      scanFrom? (.text done) (cs.flatMap escape ++ '"' :: rest)
        = (scanFrom? .between rest).map
          ([.str (String.ofList (done.reverse ++ cs))] ++ ·) := by
    intro cs
    induction cs with
    | nil =>
      intro done
      rw [List.append_nil]
      exact scanFrom?_cons rfl rest
    | cons c cs ih =>
      intro done
      rw [List.flatMap_cons, List.append_assoc, scanFrom?_escape, ih,
        List.reverse_cons, List.append_assoc]
      rfl
  have hopen : step? .between '"' = some ([], .text []) := rfl
  rw [quoted, List.cons_append, List.append_assoc, scanFrom?_inside hopen]
  simpa using key s.toList []

/-! ## Rows of words -/

/-- The text of the words gives them back, if nothing continues the last
one. -/
def Scans (ts : List Token) : Prop :=
  ∀ rest, Apart rest →
    scanFrom? .between (ts.flatMap chars ++ rest)
      = (scanFrom? .between rest).map (ts ++ ·)

/-- A token that is a single character, apart from everything. -/
structure IsMark (t : Token) (c : Char) : Prop where
  chars : t.chars = [c]
  starts : step? .between c = some ([t], .between)
  word : isWordChar c = false
  number : isNumberChar c = false

theorem isMark_openArr : IsMark .openArr '[' := ⟨rfl, rfl, rfl, rfl⟩
theorem isMark_closeArr : IsMark .closeArr ']' := ⟨rfl, rfl, rfl, rfl⟩
theorem isMark_openObj : IsMark .openObj '\x7b' := ⟨rfl, rfl, rfl, rfl⟩
theorem isMark_closeObj : IsMark .closeObj '\x7d' := ⟨rfl, rfl, rfl, rfl⟩
theorem isMark_comma : IsMark .comma ',' := ⟨rfl, rfl, rfl, rfl⟩
theorem isMark_colon : IsMark .colon ':' := ⟨rfl, rfl, rfl, rfl⟩

theorem scans_nil : Scans [] := by
  intro rest _
  rw [List.flatMap_nil, List.nil_append]
  cases scanFrom? .between rest <;> rfl

/-- Words on both sides of a mark. -/
theorem Scans.mark {ts more : List Token} {t : Token} {c : Char}
    (before : Scans ts) (mark : IsMark t c) (behind : Scans more) :
    Scans (ts ++ t :: more) := by
  intro rest apart
  rw [List.flatMap_append, List.flatMap_cons, mark.chars,
    List.append_assoc, List.append_assoc, List.singleton_append,
    before _ (apart_cons mark.word mark.number _),
    scanFrom?_cons mark.starts, behind rest apart]
  cases scanFrom? .between rest <;> simp

theorem scans_str (s : String) : Scans [.str s] := by
  intro rest _
  rw [List.flatMap_singleton]
  exact scanFrom?_quoted s rest

/-- A word or number scans. -/
theorem Gathers.scans {mode : List Char → Mode} {continues : Char → Bool}
    {read : List Char → Option Token} (g : Gathers mode continues read)
    {t : Token} {first : Char} {cs : List Char}
    (written : t.chars = first :: cs)
    (starts : step? .between first = some ([], mode [first]))
    (inside : ∀ c ∈ cs, continues c = true)
    (reads : read (first :: cs) = some t)
    (ends : ∀ rest, Apart rest → ∀ c ∈ rest.head?, continues c = false) :
    Scans [t] := by
  intro rest apart
  rw [List.flatMap_singleton, written]
  exact g.scan starts inside reads (ends rest apart)

/-- So does a word of letters. -/
theorem scans_word {t : Token} {first : Char} {cs : List Char}
    (written : t.chars = first :: cs)
    (starts : step? .between first = some ([], .word [first]))
    (inside : ∀ c ∈ cs, isWordChar c = true)
    (reads : ofWord? (first :: cs) = some t) : Scans [t] :=
  gathers_word.scans written starts inside reads fun _ apart c hc =>
    (apart c hc).1

theorem scans_null : Scans [.null] := by
  have written : Token.null.chars = ['n', 'u', 'l', 'l'] := rfl
  exact scans_word written rfl (List.all_eq_true.mp rfl) rfl

theorem scans_bool (b : Bool) : Scans [.bool b] := by
  cases b with
  | true =>
    have written : (Token.bool true).chars = ['t', 'r', 'u', 'e'] := rfl
    exact scans_word written rfl (List.all_eq_true.mp rfl) rfl
  | false =>
    have written : (Token.bool false).chars = ['f', 'a', 'l', 's', 'e'] := rfl
    exact scans_word written rfl (List.all_eq_true.mp rfl) rfl

theorem isNumberChar_digit {c : Char} (h : c.isDigit = true) :
    isNumberChar c = true := by
  simp [isNumberChar, h]

/-- A digit or a minus begins a number. -/
theorem step?_number {c : Char} (h : c.isDigit = true ∨ c = '-') :
    step? .between c = some ([], .number [c]) := by
  have hne : ∀ d : Char, (d.isDigit || d = '-') = false → c ≠ d := by
    rintro d hd rfl
    have hdigit : (c.isDigit || c = '-') = true := by simpa using h
    rw [hd] at hdigit
    cases hdigit
  rw [step?, start?, isBlank]
  simp only [hne ' ' rfl, hne '\t' rfl, hne '\n' rfl, hne '\r' rfl,
    hne '[' rfl, hne ']' rfl, hne '\x7b' rfl, hne '\x7d' rfl, hne ',' rfl,
    hne ':' rfl, hne '"' rfl, decide_false, Bool.or_self, if_false,
    Bool.false_eq_true]
  rw [if_pos (by simpa using h)]

/-- The digits of an integer, with a minus or without one. -/
theorem intChars_cons (i : Int) :
    ∃ first cs, Decimal.intChars i = first :: cs
      ∧ (first.isDigit = true ∨ first = '-')
      ∧ ∀ c ∈ cs, c.isDigit = true := by
  unfold Decimal.intChars
  split
  · exact ⟨'-', _, rfl, .inr rfl, fun c => Decimal.isDigit_digitChars⟩
  · cases h : Decimal.digitChars i.natAbs with
    | nil => exact absurd h Nat.toDigits_ne_nil
    | cons first cs =>
      have hall : ∀ c ∈ first :: cs, c.isDigit = true :=
        fun c hc => Decimal.isDigit_digitChars (h ▸ hc)
      obtain ⟨hfirst, hcs⟩ := List.forall_mem_cons.mp hall
      exact ⟨first, cs, rfl, .inl hfirst, hcs⟩

theorem scans_int {i : Int} (low : Word.minSigned ≤ i)
    (high : i ≤ Word.max64) : Scans [.int i] := by
  have hreads : ofNumber? (Decimal.intChars i) = some (.int i) := by
    rw [ofNumber?, Number.read?_intChars low high]
  obtain ⟨first, cs, hwritten, hfirst, hcs⟩ := intChars_cons i
  exact gathers_number.scans hwritten (step?_number hfirst)
    (fun c hc => isNumberChar_digit (hcs c hc)) (hwritten ▸ hreads)
    fun _ apart c hc => (apart c hc).2

end ScriptHost.Json.Token
