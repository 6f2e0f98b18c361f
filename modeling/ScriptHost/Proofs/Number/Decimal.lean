/-
ScriptHost.Proofs.Number.Decimal — decimal digits and the numbers they spell.

The digits of a number are known by its last one and the digits of its
tenth. With zeros in front, numbers below a power of ten and rows of so many
digits correspond: `paddedChars_ofDigits` gives the row back from its number,
and `exists_digits` finds a row for every number.
-/
import Mathlib.Data.List.Induction
import ScriptHost.Number.Numeral

namespace ScriptHost.Decimal

/-! ## Plain digits -/

theorem digitChars_small {n : Nat} (h : n < 10) :
    digitChars n = [n.digitChar] :=
  Nat.toDigits_of_lt_base h

/-- The last digit stands behind those of the tenth. -/
theorem digitChars_large {n : Nat} (h : 10 ≤ n) :
    digitChars n = digitChars (n / 10) ++ [(n % 10).digitChar] :=
  Nat.toDigits_of_base_le (by decide) h

theorem isDigit_digitChars {n : Nat} {c : Char} (h : c ∈ digitChars n) :
    c.isDigit = true :=
  Nat.isDigit_of_mem_toDigits (by decide) (by decide) h

/-- A number other than zero has a first digit, which is not zero. -/
theorem digitChars_pos {n : Nat} (h : 0 < n) :
    ∃ c rest, digitChars n = c :: rest ∧ c ≠ '0' := by
  induction n using Nat.strongRecOn with
  | ind n ih =>
    by_cases hsmall : n < 10
    · have hdigit : ∀ d < 10, 0 < d → d.digitChar ≠ '0' := by decide
      exact ⟨n.digitChar, [], digitChars_small hsmall, hdigit n hsmall h⟩
    · obtain ⟨c, rest, hrest, hc⟩ := ih (n / 10) (by omega) (by omega)
      refine ⟨c, rest ++ [(n % 10).digitChar], ?_, hc⟩
      rw [digitChars_large (by omega), hrest, List.cons_append]

theorem digitValue_digitChar : ∀ d < 10, digitValue d.digitChar = d := by
  decide

/-! ## Digits and their values -/

theorem hexValue?_digitChar : ∀ d < 10, hexValue? d.digitChar = some d := by
  decide

/-- A decimal digit is the digit of its value, which is below ten. -/
theorem digitChar_of_isDigit {c : Char} (h : c.isDigit = true) :
    ∃ d < 10, hexValue? c = some d ∧ d.digitChar = c := by
  obtain ⟨hlow, hhigh⟩ := Char.isDigit_iff_toNat.mp h
  simp only [show '0'.toNat = 48 from rfl, show '9'.toNat = 57 from rfl]
    at hlow hhigh
  have hchar : (c.toNat - 48).digitChar = c := by
    refine Char.toNat_inj.mp ?_
    rw [Nat.toNat_digitChar_of_lt_ten (by omega)]
    omega
  refine ⟨c.toNat - 48, by omega, ?_, hchar⟩
  have hvalue := hexValue?_digitChar (c.toNat - 48) (by omega)
  rwa [hchar] at hvalue

theorem ofDigits_concat (cs : List Char) {c : Char} {d : Nat}
    (h : hexValue? c = some d) :
    ofDigits 10 (cs ++ [c]) = ofDigits 10 cs * 10 + d := by
  simp [ofDigits, List.foldl_append, h]

/-! ## Zeros in front -/

theorem paddedChars_one {d : Nat} (h : d < 10) :
    paddedChars 1 d = [d.digitChar] := by
  simp [paddedChars, digitChars_small h]

/-- With one more place, the last digit stands behind the tenth in the places
before. -/
theorem paddedChars_concat {width m d : Nat} (hwidth : 0 < width)
    (hd : d < 10) :
    paddedChars (width + 1) (m * 10 + d)
      = paddedChars width m ++ [d.digitChar] := by
  unfold paddedChars
  dsimp only
  rcases Nat.eq_zero_or_pos m with rfl | hm
  · have hzero : digitChars 0 = ['0'] := rfl
    have hzeros : List.replicate width '0'
        = List.replicate (width - 1) '0' ++ ['0'] := by
      rw [← List.replicate_succ', Nat.sub_add_cancel hwidth]
    simp only [Nat.zero_mul, Nat.zero_add, digitChars_small hd, hzero,
      List.length_singleton, Nat.add_sub_cancel]
    rw [hzeros]
  · have hlarge := digitChars_large (n := m * 10 + d) (by omega)
    rw [show (m * 10 + d) / 10 = m by omega,
      show (m * 10 + d) % 10 = d by omega] at hlarge
    rw [hlarge, List.length_append, List.length_singleton,
      Nat.add_sub_add_right, List.append_assoc]

/-- **Digits are given back by their number**, written in as many places. -/
theorem paddedChars_ofDigits {cs : List Char} (hne : cs ≠ [])
    (h : ∀ c ∈ cs, c.isDigit = true) :
    paddedChars cs.length (ofDigits 10 cs) = cs := by
  induction cs using List.reverseRecOn with
  | nil => exact absurd rfl hne
  | append_singleton cs c ih =>
    obtain ⟨d, hd, hvalue, hchar⟩ := digitChar_of_isDigit (h c (by simp))
    rw [ofDigits_concat cs hvalue, List.length_append, List.length_singleton]
    by_cases hcs : cs = []
    · subst hcs
      rw [show ofDigits 10 [] = 0 from rfl, List.length_nil, Nat.zero_mul,
        Nat.zero_add, Nat.zero_add, paddedChars_one hd, hchar]
      rfl
    · rw [paddedChars_concat (List.length_pos_iff.mpr hcs) hd, hchar,
        ih hcs fun c hc => h c (List.mem_append_left _ hc)]

/-- Every number below a power of ten has a row of so many digits. -/
theorem exists_digits {width n : Nat} (h : n < Nat.pow 10 width) :
    ∃ cs : List Char, cs.length = width ∧ (∀ c ∈ cs, c.isDigit = true)
      ∧ ofDigits 10 cs = n := by
  induction width generalizing n with
  | zero =>
    obtain rfl : n = 0 := Nat.lt_one_iff.mp h
    exact ⟨[], rfl, by simp, rfl⟩
  | succ width ih =>
    have htenth : n / 10 < Nat.pow 10 width :=
      Nat.div_lt_of_lt_mul (by rwa [Nat.mul_comm])
    obtain ⟨cs, rfl, hdigits, hvalue⟩ := ih htenth
    have hd : n % 10 < 10 := Nat.mod_lt _ (by decide)
    refine ⟨cs ++ [(n % 10).digitChar], by simp, ?_, ?_⟩
    · intro c hc
      rcases List.mem_append.mp hc with hc | hc
      · exact hdigits c hc
      · rw [List.mem_singleton.mp hc]
        exact isDigit_digitChars (n := n % 10) (by simp [digitChars_small hd])
    · rw [ofDigits_concat cs (hexValue?_digitChar _ hd), hvalue]
      omega

/-- A number below a power of ten, with zeros in front, is a row of digits
that spells it. -/
theorem paddedChars_digits {width n : Nat} (hwidth : 0 < width)
    (h : n < Nat.pow 10 width) :
    (paddedChars width n).length = width
      ∧ (∀ c ∈ paddedChars width n, c.isDigit = true)
      ∧ ofDigits 10 (paddedChars width n) = n := by
  obtain ⟨cs, rfl, hdigits, rfl⟩ := exists_digits h
  rw [paddedChars_ofDigits (List.length_pos_iff.mp hwidth) hdigits]
  exact ⟨rfl, hdigits, rfl⟩

/-! ## Any number of digits -/

/-- The digits of a number spell it. -/
theorem ofDigits_digitChars (n : Nat) : ofDigits 10 (digitChars n) = n := by
  induction n using Nat.strongRecOn with
  | ind n ih =>
    by_cases hsmall : n < 10
    · have hspelled := ofDigits_concat [] (hexValue?_digitChar n hsmall)
      rw [digitChars_small hsmall]
      exact hspelled.trans (Nat.zero_add n)
    · rw [digitChars_large (by omega),
        ofDigits_concat _ (hexValue?_digitChar _ (Nat.mod_lt n (by decide))),
        ih (n / 10) (by omega)]
      omega

/-- Zeros in front change nothing. -/
theorem ofDigits_zeros (k : Nat) (cs : List Char) :
    ofDigits 10 (List.replicate k '0' ++ cs) = ofDigits 10 cs := by
  induction k with
  | zero => rfl
  | succ k ih => exact ih

/-- A number in at least so many places is a row of digits that spells it. -/
theorem paddedChars_spells (width n : Nat) :
    width ≤ (paddedChars width n).length
      ∧ (∀ c ∈ paddedChars width n, c.isDigit = true)
      ∧ ofDigits 10 (paddedChars width n) = n := by
  refine ⟨?_, fun c hc => ?_, ?_⟩
  · simp only [paddedChars, List.length_append, List.length_replicate]
    omega
  · rcases List.mem_append.mp hc with hc | hc
    · rw [(List.mem_replicate.mp hc).2]
      rfl
    · exact isDigit_digitChars hc
  · exact (ofDigits_zeros _ _).trans (ofDigits_digitChars n)

end ScriptHost.Decimal
