/-
ScriptHost.Proofs.Json.Number — an integer that was written reads back.

The reader takes the digits of an integer one by one and falls back to
doubles once they do not fit 64 bits, and it refuses a zero in front of other
digits. `read?_intChars` says that the text of an integer meets neither, as
long as 64 bits hold the integer, with or without a sign.
-/
import Mathlib.Data.List.TakeWhile
import ScriptHost.Json.Number
import ScriptHost.Proofs.Number.Decimal

namespace ScriptHost

namespace Json.Number

open Decimal

/-- Digits are gathered to the number that they spell, if it fits. -/
theorem foldl_whole {n : Nat} (h : n ≤ Word.max64) :
    (digitChars n).foldl Gathered.whole ⟨0, 0, false⟩ = ⟨n, 0, false⟩ := by
  induction n using Nat.strongRecOn with
  | ind n ih =>
    have hlast : ∀ v : Nat, v * 10 + n % 10 = n →
        Gathered.whole ⟨v, 0, false⟩ (n % 10).digitChar = ⟨n, 0, false⟩ := by
      intro v hv
      have hdigit := digitValue_digitChar (n % 10) (Nat.mod_lt _ (by decide))
      simp only [Gathered.whole, hdigit, hv, Bool.false_or,
        decide_eq_true_eq, if_neg (Nat.not_lt.mpr h)]
    by_cases hsmall : n < 10
    · have hmod : n % 10 = n := Nat.mod_eq_of_lt hsmall
      rw [digitChars_small hsmall, ← hmod]
      exact hmod.symm ▸ hlast 0 (by omega)
    · rw [digitChars_large (by omega), List.foldl_append,
        ih (n / 10) (by omega) (by omega)]
      exact hlast (n / 10) (by omega)

/-- All digits of a number are split off together. -/
theorem splitWhole?_digitChars (n : Nat) :
    splitWhole? (digitChars n) = some (digitChars n, []) := by
  have hspan : spanDigits (digitChars n) = (digitChars n, []) := by
    have hall : ∀ c ∈ digitChars n, c.isDigit = true :=
      fun c hc => isDigit_digitChars hc
    rw [spanDigits, List.takeWhile_eq_self_iff.mpr hall,
      List.dropWhile_eq_nil_iff.mpr hall]
  unfold splitWhole?
  rw [hspan]
  rcases Nat.eq_zero_or_pos n with rfl | hpos
  · rfl
  · obtain ⟨c, rest, hdigits, hc⟩ := digitChars_pos hpos
    simp [hdigits, hc]

/-- No digit is a minus. -/
theorem digitChars_ne_minus {n : Nat} {rest : List Char} :
    digitChars n ≠ '-' :: rest := by
  intro h
  have hdigit := isDigit_digitChars (n := n) (c := '-') (by simp [h])
  exact absurd hdigit (by decide)

/-- Digits alone are an integer. -/
theorem read?_digitChars {n : Nat} (fits : n ≤ Word.max64) :
    read? (digitChars n) = some (integer false n) := by
  unfold read?
  split
  rename_i negative body hbody
  split at hbody
  · rename_i heq
    exact absurd heq digitChars_ne_minus
  · obtain ⟨rfl, rfl⟩ := hbody
    simp only [splitWhole?_digitChars, foldl_whole fits, Option.bind_eq_bind,
      Option.bind_some, Bool.false_eq_true, if_false]

/-- So are digits behind a minus. -/
theorem read?_minus {n : Nat} (fits : n ≤ Word.max64) :
    read? ('-' :: digitChars n) = some (integer true n) := by
  simp only [read?, splitWhole?_digitChars, foldl_whole fits,
    Option.bind_eq_bind, Option.bind_some, Bool.false_eq_true, if_false]

/-- **The text of an integer reads as the integer.** -/
theorem read?_intChars {i : Int} (low : Word.minSigned ≤ i)
    (high : i ≤ Word.max64) : read? (intChars i) = some (.int i) := by
  simp only [Word.minSigned, Word.max64] at low high
  unfold intChars
  split
  · rename_i hneg
    have hfits : ¬ (i.natAbs = 0
        ∨ Word.maxSigned + 1 < (i.natAbs : Int)) := by
      simp only [Word.maxSigned]
      omega
    rw [read?_minus (by simp only [Word.max64]; omega)]
    simp only [integer, Bool.not_true, Bool.false_eq_true, if_false,
      if_neg hfits]
    rw [show -(i.natAbs : Int) = i by omega]
  · rw [read?_digitChars (by simp only [Word.max64]; omega)]
    simp only [integer, Bool.not_false, if_true]
    rw [show (i.natAbs : Int) = i by omega]

end Json.Number

end ScriptHost
