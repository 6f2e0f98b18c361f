/-
ScriptHost.Proofs.Xml.Escape — escaped text reads back.

A character is written as a reference that names it, or as itself
(`escapeChar_cases`). So no mark of a tag stands in escaped text, and
`unescape?_escape` undoes `escape`. Blanks are written as themselves and
references are none: text that is `Bare` stays so, and to trim the written
text is to trim the text (`trimBoth_escape`).
-/
import Mathlib.Data.List.Basic
import Mathlib.Data.List.TakeWhile
import ScriptHost.Proofs.Text.Trim
import ScriptHost.Xml.Escape
import ScriptHost.Xml.Event

namespace ScriptHost.Xml

/-! ## Up to a mark -/

section Mark

variable {p : Char → Bool} {cs : List Char} {mark : Char}

theorem takeWhile_mark (h : ∀ c ∈ cs, p c = true) (stop : p mark = false)
    (rest : List Char) : (cs ++ mark :: rest).takeWhile p = cs := by
  rw [List.takeWhile_append_of_pos h,
    List.takeWhile_cons_of_neg (by simp [stop]), List.append_nil]

theorem dropWhile_mark (h : ∀ c ∈ cs, p c = true) (stop : p mark = false)
    (rest : List Char) :
    (cs ++ mark :: rest).dropWhile p = mark :: rest := by
  rw [List.dropWhile_append_of_pos h,
    List.dropWhile_cons_of_neg (by simp [stop])]

end Mark

/-! ## Text without blanks at its ends -/

/-- Text with no blank at either end. -/
def Bare (cs : List Char) : Prop :=
  (∀ c ∈ cs.head?, isSpace c = false) ∧ ∀ c ∈ cs.getLast?, isSpace c = false

-- The instances are named because characters are finitely many: to decide the
-- same by trying all of them would be found as well.
instance (cs : List Char) : Decidable (Bare cs) :=
  @instDecidableAnd _ _ (Option.decidableForallMem cs.head?)
    (Option.decidableForallMem cs.getLast?)

section Bare

variable {cs : List Char}

/-- There is no blank in front to drop. -/
theorem Bare.dropWhile (h : Bare cs) : cs.dropWhile isSpace = cs :=
  dropWhile_of_head? h.1

theorem Bare.reverse (h : Bare cs) : Bare cs.reverse := by
  refine ⟨?_, ?_⟩
  · rw [List.head?_reverse]; exact h.2
  · rw [List.getLast?_reverse]; exact h.1

/-- There is no blank at the end to drop. -/
theorem Bare.trimEnd (h : Bare cs) : trimEnd cs = cs := by
  rw [Xml.trimEnd, h.reverse.dropWhile, List.reverse_reverse]

end Bare

/-! ## Trimming -/

/-- Text without the blanks at both ends. -/
def trimBoth (cs : List Char) : List Char := trimEnd (cs.dropWhile isSpace)

section Trim

variable {cs : List Char}

theorem trimBoth_eq_unpad (cs : List Char) :
    trimBoth cs = unpad isSpace cs := rfl

theorem trimBoth_eq_nil_iff :
    trimBoth cs = [] ↔ ∀ c ∈ cs, isSpace c = true := by
  rw [trimBoth_eq_unpad, unpad_eq_nil_iff]

/-- There is nothing to trim off. -/
theorem Bare.trimBoth (h : Bare cs) : trimBoth cs = cs := by
  rw [Xml.trimBoth, h.dropWhile, h.trimEnd]

/-- Blanks are trimmed off at both ends, up to what is bare. -/
theorem Bare.trimBoth_between (h : Bare cs) {front back : List Char}
    (hfront : ∀ c ∈ front, isSpace c = true)
    (hback : ∀ c ∈ back, isSpace c = true) :
    Xml.trimBoth (front ++ (cs ++ back)) = cs :=
  Pads.unpad ⟨h, front, back, rfl, hfront, hback⟩

/-- Only blanks are taken off the end. -/
theorem exists_trimEnd (cs : List Char) :
    ∃ back, cs = trimEnd cs ++ back ∧ ∀ c ∈ back, isSpace c = true := by
  refine ⟨(cs.reverse.takeWhile isSpace).reverse, ?_, fun c hc =>
    List.mem_takeWhile_imp (List.mem_reverse.mp hc)⟩
  rw [trimEnd, ← List.reverse_append, List.takeWhile_append_dropWhile,
    List.reverse_reverse]

/-- What is trimmed is bare, and only blanks are trimmed off. -/
theorem exists_trimBoth (cs : List Char) :
    ∃ front back, cs = front ++ (trimBoth cs ++ back)
      ∧ (∀ c ∈ front, isSpace c = true) ∧ (∀ c ∈ back, isSpace c = true)
      ∧ Bare (trimBoth cs) := by
  obtain ⟨bare, front, back, hcs, hfront, hback⟩ := pads_unpad isSpace cs
  exact ⟨front, back, hcs, hfront, hback, bare⟩

end Trim

/-! ## One character -/

/-- A letter is no mark. -/
theorem ne_of_isAlpha {c d : Char} (h : c.isAlpha = true)
    (hd : d.isAlpha = false) : c ≠ d := by
  rintro rfl
  rw [h] at hd
  cases hd

/-- A character is written as a reference that names it, unless it is no
mark. -/
theorem escapeChar_cases (c : Char) :
    (∃ name : List Char, (∀ d ∈ name, d.isAlpha = true)
      ∧ resolve? name = some c ∧ escapeChar c = '&' :: (name ++ [';']))
    ∨ (c ∉ entities.map Prod.snd ∧ escapeChar c = [c]) := by
  unfold escapeChar
  split
  · next h => exact .inl ⟨"lt".toList, List.all_eq_true.mp rfl, h ▸ rfl, rfl⟩
  split
  · next h => exact .inl ⟨"gt".toList, List.all_eq_true.mp rfl, h ▸ rfl, rfl⟩
  split
  · next h => exact .inl ⟨"amp".toList, List.all_eq_true.mp rfl, h ▸ rfl, rfl⟩
  split
  · next h => exact .inl ⟨"apos".toList, List.all_eq_true.mp rfl, h ▸ rfl, rfl⟩
  split
  · next h => exact .inl ⟨"quot".toList, List.all_eq_true.mp rfl, h ▸ rfl, rfl⟩
  · refine .inr ⟨?_, rfl⟩
    simp_all [entities]

theorem escape_cons (c : Char) (cs : List Char) :
    escape (c :: cs) = escapeChar c ++ escape cs := List.flatMap_cons

theorem escape_append (cs ds : List Char) :
    escape (cs ++ ds) = escape cs ++ escape ds := List.flatMap_append

theorem escape_concat (cs : List Char) (c : Char) :
    escape (cs ++ [c]) = escape cs ++ escapeChar c := by
  simp [escape]

/-! ## What stands in escaped text -/

/-- No mark of a tag stands in escaped text. -/
theorem ne_of_mem_escape {cs : List Char} {c : Char} (h : c ∈ escape cs) :
    c ≠ '<' ∧ c ≠ '>' ∧ c ≠ '"' ∧ c ≠ '\'' := by
  obtain ⟨d, -, hd⟩ := List.mem_flatMap.mp h
  rcases escapeChar_cases d with ⟨name, letters, -, heq⟩ | ⟨hmark, heq⟩
  · rw [heq] at hd
    simp only [List.mem_cons, List.mem_append, List.not_mem_nil,
      or_false] at hd
    rcases hd with rfl | hd | rfl
    · decide
    · have hletter := letters c hd
      exact ⟨ne_of_isAlpha hletter (by decide),
        ne_of_isAlpha hletter (by decide), ne_of_isAlpha hletter (by decide),
        ne_of_isAlpha hletter (by decide)⟩
    · decide
  · rw [heq, List.mem_singleton] at hd
    subst hd
    simp only [entities, List.map_cons, List.map_nil, List.mem_cons,
      List.not_mem_nil, or_false, not_or] at hmark
    exact ⟨hmark.1, hmark.2.1, hmark.2.2.2.2, hmark.2.2.2.1⟩

/-- Escaped text can stand between quotes. -/
theorem not_quote_escape (cs : List Char) : ∀ c ∈ escape cs, c ≠ '"' :=
  fun _ hc => (ne_of_mem_escape hc).2.2.1

/-- A blank is no mark. -/
theorem escapeChar_of_isSpace {c : Char} (h : isSpace c = true) :
    escapeChar c = [c] := by
  simp only [isSpace, Bool.or_eq_true, decide_eq_true_eq] at h
  rcases h with ((rfl | rfl) | rfl) | rfl <;> rfl

theorem head?_escapeChar (c : Char) :
    (escapeChar c).head? = some '&' ∨ escapeChar c = [c] :=
  (escapeChar_cases c).imp (fun ⟨_, _, _, h⟩ => h ▸ rfl) And.right

theorem getLast?_escapeChar (c : Char) :
    (escapeChar c).getLast? = some ';' ∨ escapeChar c = [c] :=
  (escapeChar_cases c).imp
    (fun ⟨name, _, _, h⟩ => by
      rw [h, ← List.cons_append, List.getLast?_concat])
    And.right

theorem escapeChar_ne_nil (c : Char) : escapeChar c ≠ [] := by
  rcases head?_escapeChar c with h | h <;> (intro hnil; rw [hnil] at h; cases h)

theorem length_le_escape (cs : List Char) :
    cs.length ≤ (escape cs).length := by
  induction cs with
  | nil => exact Nat.le_refl 0
  | cons c cs ih =>
    have hpos := List.length_pos_of_ne_nil (escapeChar_ne_nil c)
    rw [escape_cons, List.length_append, List.length_cons]
    omega

theorem escape_ne_nil {cs : List Char} (h : cs ≠ []) : escape cs ≠ [] := by
  intro hnil
  have hlength := length_le_escape cs
  rw [hnil] at hlength
  exact h (List.eq_nil_of_length_eq_zero (Nat.le_zero.mp hlength))

/-- Escaping puts no blank at an end. -/
theorem Bare.escape {cs : List Char} (h : Bare cs) : Bare (escape cs) := by
  constructor
  · cases cs with
    | nil => intro c hc; cases hc
    | cons d cs =>
      rw [escape_cons, List.head?_append_of_ne_nil _ (escapeChar_ne_nil d)]
      rcases head?_escapeChar d with heq | heq <;> rw [heq]
      · rintro c ⟨⟩
        decide
      · exact h.1
  · rcases List.eq_nil_or_concat cs with rfl | ⟨front, d, rfl⟩
    · intro c hc; cases hc
    · rw [List.concat_eq_append, escape_concat,
        List.getLast?_append_of_ne_nil _ (escapeChar_ne_nil d)]
      rcases getLast?_escapeChar d with heq | heq <;> rw [heq]
      · rintro c ⟨⟩
        decide
      · simpa using h.2

/-- **Blanks are trimmed off as before, once the text is written.** -/
theorem trimBoth_escape (cs : List Char) :
    trimBoth (escape cs) = escape (trimBoth cs) := by
  have blanks {row : List Char} (h : ∀ c ∈ row, isSpace c = true) :
      escape row = row := by
    induction row with
    | nil => rfl
    | cons c row ih =>
      obtain ⟨hc, hrow⟩ := List.forall_mem_cons.mp h
      rw [escape_cons, ih hrow, escapeChar_of_isSpace hc]
      rfl
  obtain ⟨front, back, hcs, hfront, hback, bare⟩ := exists_trimBoth cs
  conv_lhs => rw [hcs, escape_append, escape_append, blanks hfront,
    blanks hback]
  exact bare.escape.trimBoth_between hfront hback

/-! ## Reading it -/

/-- A written character reads as itself. -/
theorem unescapeFrom?_escapeChar (fuel : Nat) (c : Char) (rest : List Char) :
    unescapeFrom? (fuel + 1) (escapeChar c ++ rest)
      = (unescapeFrom? fuel rest).map (c :: ·) := by
  rcases escapeChar_cases c with ⟨name, letters, hc, heq⟩ | ⟨hmark, heq⟩
  · have hnames : ∀ d ∈ name, isNameChar d = true := fun d hd => by
      have hamp := ne_of_isAlpha (letters d hd) (d := '&') (by decide)
      have hsemi := ne_of_isAlpha (letters d hd) (d := ';') (by decide)
      simp [isNameChar, hamp, hsemi]
    have hend : isNameChar ';' = false := by decide
    rw [heq, List.cons_append, List.append_assoc, List.singleton_append,
      unescapeFrom?, if_pos rfl, dropWhile_mark hnames hend]
    simp only [takeWhile_mark hnames hend, hc]
    cases unescapeFrom? fuel rest <;> rfl
  · have hamp : c ≠ '&' := by
      rintro rfl
      exact hmark (by decide)
    rw [heq, List.singleton_append, unescapeFrom?, if_neg hamp]

/-- **Escaped text reads back.** -/
theorem unescape?_escape (cs : List Char) :
    unescape? (escape cs) = some cs := by
  suffices hfuel : ∀ fuel, cs.length ≤ fuel →
      unescapeFrom? fuel (escape cs) = some cs from
    hfuel _ (length_le_escape cs)
  induction cs with
  | nil => exact fun fuel _ => by cases fuel <;> rfl
  | cons c cs ih =>
    intro fuel hfuel
    obtain ⟨fuel, rfl⟩ : ∃ n, fuel = n + 1 :=
      ⟨fuel - 1, by rw [List.length_cons] at hfuel; omega⟩
    rw [escape_cons, unescapeFrom?_escapeChar,
      ih fuel (Nat.le_of_succ_le_succ hfuel)]
    rfl

end ScriptHost.Xml
