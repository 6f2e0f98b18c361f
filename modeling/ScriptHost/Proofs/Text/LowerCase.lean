/-
ScriptHost.Proofs.Text.LowerCase — what a piece of a text becomes in lower
case.

A text in lower case is put together from its pieces in lower case, but a
piece is not read alone: a capital sigma takes its final form or not by what
stands on both sides of it. `lowerWithin` is a piece in lower case between
its neighbours (`lowerFrom_append`). Two places make the same of a piece
exactly if each capital sigma in it takes the same form at both
(`lowerWithin_eq_iff`), and so a word keeps its lower case between
neighbours exactly if it is `Steady` there.
-/
import ScriptHost.Text.LowerCase

namespace ScriptHost

/-! ## Letters of ASCII -/

/-- A lookup as one in a list, which is cheap to evaluate. -/
theorem inRanges_eq_any (ranges : Array (Nat × Nat)) (c : Char) :
    inRanges ranges c
      = ranges.toList.any fun r => r.1 ≤ c.toNat && c.toNat ≤ r.2 := by
  rw [inRanges, ← Array.any_toList]

/-- The ranges leave the letters of ASCII out. -/
theorem caseIgnorableRanges_apart :
    caseIgnorableRanges.toList.all (fun r =>
      r.2 < 65 || (90 < r.1 && r.2 < 97) || 122 < r.1) = true := by
  decide +kernel

section Letters

variable {c : Char}
  (letter : (65 ≤ c.toNat ∧ c.toNat ≤ 90) ∨ (97 ≤ c.toNat ∧ c.toNat ≤ 122))
include letter

theorem not_caseIgnorable_letter : inRanges caseIgnorableRanges c = false := by
  rw [inRanges_eq_any, List.any_eq_false]
  intro r hr
  have hapart := List.all_eq_true.mp caseIgnorableRanges_apart r hr
  simp only [Bool.or_eq_true, Bool.and_eq_true, decide_eq_true_eq] at hapart ⊢
  omega

theorem cased_letter : inRanges casedRanges c = true := by
  rw [inRanges_eq_any]
  rcases letter with h | h
  · exact List.any_eq_true.mpr ⟨(65, 90), .head _, by simpa using h⟩
  · exact List.any_eq_true.mpr ⟨(97, 122), .tail _ (.head _), by simpa using h⟩

end Letters

theorem lower_capital : ∀ n < 26,
    (Char.ofNat (65 + n)).toLower.toNat = 97 + n
      ∧ lowerChars (Char.ofNat (65 + n)).toLower
        = lowerChars (Char.ofNat (65 + n)) := by
  decide

/-- Nothing depends on the case of a letter of ASCII. -/
theorem lower_toLower (c : Char) :
    lowerChars c.toLower = lowerChars c
      ∧ inRanges caseIgnorableRanges c.toLower = inRanges caseIgnorableRanges c
      ∧ inRanges casedRanges c.toLower = inRanges casedRanges c
      ∧ (c.toLower = 'Σ' ↔ c = 'Σ') := by
  by_cases capital : 65 ≤ c.toNat ∧ c.toNat ≤ 90
  · obtain ⟨hsmall, hchars⟩ := lower_capital (c.toNat - 65) (by omega)
    rw [show 65 + (c.toNat - 65) = c.toNat by omega, Char.ofNat_toNat]
      at hsmall hchars
    have small : 97 ≤ c.toLower.toNat ∧ c.toLower.toNat ≤ 122 := by omega
    have notSigma {d : Char} (h : d.toNat ≤ 122) : d ≠ 'Σ' := by
      rintro rfl
      exact absurd h (by decide)
    refine ⟨hchars, ?_, ?_, iff_of_false (notSigma small.2)
      (notSigma (by omega))⟩
    · rw [not_caseIgnorable_letter (.inl capital),
        not_caseIgnorable_letter (.inr small)]
    · rw [cased_letter (.inl capital), cased_letter (.inr small)]
  · have hsame : c.toLower = c := dif_neg capital
    simp [hsame]

/-! ## The nearest character that counts -/

theorem meetsCased_cons (c : Char) (cs : List Char) :
    meetsCased (c :: cs)
      = if inRanges caseIgnorableRanges c then meetsCased cs
        else inRanges casedRanges c := by
  cases hc : inRanges caseIgnorableRanges c <;>
    simp [meetsCased, hc]

/-- Nothing is met beyond a space. -/
theorem meetsCased_space (cs : List Char) : meetsCased (' ' :: cs) = false := by
  have hignorable : inRanges caseIgnorableRanges ' ' = false := by
    rw [inRanges_eq_any]
    decide +kernel
  have hcased : inRanges casedRanges ' ' = false := by
    rw [inRanges_eq_any]
    decide +kernel
  rw [meetsCased_cons, hignorable, hcased]
  rfl

/-- Behind a text, what meets no letter leaves that text to decide. -/
theorem meetsCased_append {beyond : List Char}
    (hbeyond : meetsCased beyond = false) (cs : List Char) :
    meetsCased (cs ++ beyond) = meetsCased cs := by
  induction cs with
  | nil => exact hbeyond
  | cons c cs ih => rw [List.cons_append, meetsCased_cons, meetsCased_cons, ih]

theorem meetsCased_toLower (cs : List Char) :
    meetsCased (cs.map Char.toLower) = meetsCased cs := by
  induction cs with
  | nil => rfl
  | cons c cs ih =>
    obtain ⟨-, hignorable, hcased, -⟩ := lower_toLower c
    rw [List.map_cons, meetsCased_cons, meetsCased_cons, ih, hignorable, hcased]

/-! ## Pieces -/

/-- Does a capital sigma end a word between these neighbours, those in front
last first? -/
def endsWord (before after : List Char) : Bool :=
  meetsCased before && !meetsCased after

/-- A character in lower case, between its neighbours. -/
def lowerAt (before : List Char) (c : Char) (after : List Char) : List Char :=
  if c = 'Σ' then if endsWord before after then ['ς'] else ['σ']
  else lowerChars c

/-- A piece of a text in lower case, between its neighbours. -/
def lowerWithin (before : List Char) : List Char → List Char → List Char
  | [], _ => []
  | c :: cs, after =>
    lowerAt before c (cs ++ after) ++ lowerWithin (c :: before) cs after

/-- **A text in lower case, piece by piece.** -/
theorem lowerFrom_append (before cs after : List Char) :
    lowerFrom before (cs ++ after)
      = lowerWithin before cs after
        ++ lowerFrom (cs.reverse ++ before) after := by
  induction cs generalizing before with
  | nil => rfl
  | cons c cs ih =>
    have hfirst : lowerFrom before (c :: (cs ++ after))
        = lowerAt before c (cs ++ after)
          ++ lowerFrom (c :: before) (cs ++ after) := rfl
    rw [List.cons_append, hfirst, ih, lowerWithin, List.append_assoc,
      List.reverse_cons, List.append_assoc, List.singleton_append]

theorem lowerWithin_alone (cs : List Char) :
    lowerWithin [] cs [] = lowerFrom [] cs := by
  have h := lowerFrom_append [] cs []
  rw [List.append_nil, lowerFrom, List.append_nil] at h
  exact h.symm

/-- A text in lower case holds each of its pieces in lower case. -/
theorem lowerWithin_infix (before cs after : List Char) :
    lowerWithin before.reverse cs after
      <:+: lowerFrom [] (before ++ cs ++ after) := by
  rw [List.append_assoc, lowerFrom_append, lowerFrom_append, List.append_nil,
    ← List.append_assoc]
  exact List.infix_append _ _ _

/-! ## The case of letters of ASCII -/

theorem lowerAt_toLower (before : List Char) (c : Char) (after : List Char) :
    lowerAt (before.map Char.toLower) c.toLower (after.map Char.toLower)
      = lowerAt before c after := by
  obtain ⟨hchars, -, -, hsigma⟩ := lower_toLower c
  rw [lowerAt, lowerAt, endsWord, endsWord, meetsCased_toLower,
    meetsCased_toLower, hchars]
  by_cases hc : c = 'Σ'
  · rw [if_pos hc, if_pos (hsigma.mpr hc)]
  · rw [if_neg hc, if_neg (mt hsigma.mp hc)]

theorem lowerWithin_toLower (before cs after : List Char) :
    lowerWithin (before.map Char.toLower) (cs.map Char.toLower)
        (after.map Char.toLower)
      = lowerWithin before cs after := by
  induction cs generalizing before with
  | nil => rfl
  | cons c cs ih =>
    rw [List.map_cons, lowerWithin, ← List.map_append, lowerAt_toLower,
      ← List.map_cons, ih, lowerWithin]

/-- Pieces that differ only in the case of letters of ASCII become the same
between the same neighbours. -/
theorem lowerWithin_of_toLower_eq {piece word : List Char}
    (h : piece.map Char.toLower = word.map Char.toLower)
    (before after : List Char) :
    lowerWithin before piece after = lowerWithin before word after := by
  rw [← lowerWithin_toLower before piece, h, lowerWithin_toLower]

/-! ## Two places -/

section Places

variable {before before' after after' : List Char}

theorem lowerAt_length (c : Char) :
    (lowerAt before c after).length = (lowerAt before' c after').length := by
  unfold lowerAt
  split
  · split <;> split <;> rfl
  · rfl

theorem lowerAt_eq_iff (c : Char) :
    lowerAt before c after = lowerAt before' c after'
      ↔ (c = 'Σ' → endsWord before after = endsWord before' after') := by
  unfold lowerAt
  split
  · cases endsWord before after <;> cases endsWord before' after' <;>
      simp [*]
  · simp [*]

/-- **Two places make the same of a piece** exactly if they give the same form
to each capital sigma in it. -/
theorem lowerWithin_eq_iff (cs : List Char) :
    lowerWithin before cs after = lowerWithin before' cs after'
      ↔ ∀ front back, cs = front ++ 'Σ' :: back →
        endsWord (front.reverse ++ before) (back ++ after)
          = endsWord (front.reverse ++ before') (back ++ after') := by
  induction cs generalizing before before' with
  | nil => simp [lowerWithin]
  | cons c cs ih =>
    have hboth : lowerWithin before (c :: cs) after
          = lowerWithin before' (c :: cs) after'
        ↔ lowerAt before c (cs ++ after) = lowerAt before' c (cs ++ after')
          ∧ lowerWithin (c :: before) cs after
            = lowerWithin (c :: before') cs after' :=
      ⟨fun h => List.append_inj h (lowerAt_length c),
        fun h => by rw [lowerWithin, lowerWithin, h.1, h.2]⟩
    rw [hboth, lowerAt_eq_iff, ih]
    -- The first capital sigma is the first character, or one of the rest.
    constructor
    · rintro ⟨hfirst, hrest⟩ front back hcs
      cases front with
      | nil =>
        obtain ⟨rfl, rfl⟩ := List.cons.inj hcs
        exact hfirst rfl
      | cons d front =>
        obtain ⟨rfl, rfl⟩ := List.cons.inj hcs
        simpa using hrest front back rfl
    · intro h
      refine ⟨fun hc => ?_, fun front back hcs => ?_⟩
      · subst hc
        exact h [] cs rfl
      · have hback := h (c :: front) back (by rw [hcs, List.cons_append])
        simpa using hback

end Places

/-! ## Words between neighbours -/

/-- Each capital sigma of a word takes the form between these neighbours that
it takes in the word alone. -/
def Steady (before word after : List Char) : Prop :=
  ∀ front back, word = front ++ 'Σ' :: back →
    endsWord (front.reverse ++ before) (back ++ after)
      = endsWord front.reverse back

namespace Steady

variable {before word after : List Char}

/-- **A steady word** is one that keeps its lower case. -/
theorem iff_lowerWithin :
    Steady before word after
      ↔ lowerWithin before word after = lowerFrom [] word := by
  rw [← lowerWithin_alone, lowerWithin_eq_iff]
  simp only [List.append_nil]
  exact Iff.rfl

/-- Words without a capital sigma are steady everywhere. -/
theorem of_not_mem (h : 'Σ' ∉ word) : Steady before word after := by
  rintro front back rfl
  exact absurd (by simp) h

/-- Between neighbours without letters next to them all words are steady. -/
theorem of_apart (hbefore : meetsCased before = false)
    (hafter : meetsCased after = false) : Steady before word after := by
  intro front back _
  rw [endsWord, endsWord, meetsCased_append hbefore, meetsCased_append hafter]

end Steady

end ScriptHost
