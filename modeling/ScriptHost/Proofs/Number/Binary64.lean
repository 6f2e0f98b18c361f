/-
ScriptHost.Proofs.Number.Binary64 — the numbers that doubles stand for, and
the double nearest to a large integer.

`toRat` is the number that a finite pattern stands for: the quotient `ratio`
with the sign (`toRat_eq_ratio`). A quotient is rounded to a natural that is
off by half at most (`roundHalfEven_half`). An integer of 64 bits whose top bit
is set lies between two doubles that are 2048 apart, and `ofInt` takes the
nearer one: `ofInt_finite` and `ofInt_nearest` say that the result is a number
and that no double is nearer.
-/
import Mathlib.Algebra.Order.Field.Rat
import Mathlib.Data.Nat.Log
import Mathlib.Tactic.FieldSimp
import Mathlib.Tactic.Linarith
import Mathlib.Tactic.NormNum
import Mathlib.Tactic.Positivity
import Mathlib.Tactic.Push
import Mathlib.Tactic.Ring
import ScriptHost.Number.Binary64
import ScriptHost.Number.Word

namespace ScriptHost.Binary64

/-- The number that a finite pattern stands for. -/
def toRat (x : Binary64) : ℚ :=
  (if x.negative then -1 else 1) * x.significand.1
    * (2 : ℚ) ^ x.significand.2

/-! ## Rounding a quotient -/

/-- No multiple of the denominator is nearer than the rounded one. -/
theorem roundHalfEven_nearest (num den k : Nat) (hden : 0 < den) :
    |((roundHalfEven num den * den : Nat) : ℤ) - num|
      ≤ |((k * den : Nat) : ℤ) - num| := by
  have hdiv := Nat.div_add_mod num den
  have hlt := Nat.mod_lt num hden
  have hcomm : den * (num / den) = num / den * den := Nat.mul_comm _ _
  -- The multiple `k` is not above the quotient, or at least one above it.
  have hk : k * den ≤ num / den * den
      ∨ num / den * den + den ≤ k * den := by
    rcases Nat.lt_or_ge (num / den) k with h | h
    · exact .inr (by
        have := Nat.mul_le_mul_right den h
        rwa [Nat.succ_mul] at this)
    · exact .inl (Nat.mul_le_mul_right den h)
  simp only [roundHalfEven]
  split
  · rename_i hup
    have hr : den ≤ 2 * (num % den) := by omega
    rw [Nat.succ_mul, abs_of_nonneg (by omega)]
    rcases hk with hk | hk
    · rw [abs_of_nonpos (by omega)]
      omega
    · rw [abs_of_nonneg (by omega)]
      omega
  · rename_i hdown
    have hr : 2 * (num % den) ≤ den := by omega
    rw [abs_of_nonpos (by omega)]
    rcases hk with hk | hk
    · rw [abs_of_nonpos (by omega)]
      omega
    · rw [abs_of_nonneg (by omega)]
      omega

/-- To round a quotient is to be off by half at most. -/
theorem roundHalfEven_half (num : Nat) {den : Nat} (hden : 0 < den) :
    |(roundHalfEven num den : ℚ) - num / den| ≤ 1 / 2 := by
  have hdiv := Nat.div_add_mod num den
  have hlt := Nat.mod_lt num hden
  -- The same in integers.
  have hhalf : |2 * ((roundHalfEven num den * den : Nat) : ℤ) - 2 * num|
      ≤ den := by
    have hcomm : den * (num / den) = num / den * den := Nat.mul_comm _ _
    simp only [roundHalfEven]
    split
    · rw [Nat.succ_mul, abs_of_nonneg (by omega)]
      omega
    · rw [abs_of_nonpos (by omega)]
      omega
  have hden' : (0 : ℚ) < den := Nat.cast_pos.mpr hden
  have hscaled : (roundHalfEven num den : ℚ) - num / den
      = (2 * ((roundHalfEven num den * den : Nat) : ℤ) - 2 * num : ℤ)
        / (2 * den) := by
    push_cast
    field_simp
  rw [hscaled, abs_div, abs_of_pos (show (0 : ℚ) < 2 * den by positivity),
    div_le_iff₀ (by positivity)]
  calc (|((2 * ((roundHalfEven num den * den : Nat) : ℤ) - 2 * num : ℤ) : ℚ)|)
      ≤ (den : ℚ) := by exact_mod_cast hhalf
    _ = 1 / 2 * (2 * den) := by ring

/-! ## The number as a quotient -/

theorem ratio_pos (x : Binary64) : 0 < x.ratio.2 := by
  unfold ratio
  dsimp only
  split
  · exact Nat.one_pos
  · rw [Nat.one_shiftLeft]
    exact Nat.two_pow_pos _

/-- The number that a finite pattern stands for, as a quotient of naturals with
a sign. -/
theorem toRat_eq_ratio (x : Binary64) :
    x.toRat = (if x.negative then -1 else 1)
      * ((x.ratio.1 : ℚ) / (x.ratio.2 : ℚ)) := by
  rw [toRat, mul_assoc, ratio]
  dsimp only
  congr 1
  split
  · next h =>
    rw [Nat.shiftLeft_eq, Nat.cast_mul, Nat.cast_pow, Nat.cast_one, div_one,
      ← zpow_natCast, Int.toNat_of_nonneg h]
    norm_num
  · next h =>
    rw [Nat.one_shiftLeft, Nat.cast_pow, ← zpow_natCast,
      Int.toNat_of_nonneg (by omega), zpow_neg, div_inv_eq_mul]
    norm_num

theorem significand_eq_zero_iff (x : Binary64) :
    x.significand.1 = 0 ↔ x.magnitude = 0 := by
  have hdiv := Nat.div_add_mod x.magnitude fractionModulus
  unfold significand
  dsimp only
  split
  · next h =>
    rw [h, Nat.mul_zero, Nat.zero_add] at hdiv
    rw [hdiv]
  · next h =>
    refine iff_of_false (by simp [fractionModulus]) fun hzero => h ?_
    rw [hzero, Nat.zero_div]

theorem ratio_eq_zero_iff (x : Binary64) :
    x.ratio.1 = 0 ↔ x.isZero = true := by
  rw [isZero, decide_eq_true_eq, ← significand_eq_zero_iff, ratio]
  dsimp only
  split
  · rw [Nat.shiftLeft_eq]
    simp
  · rfl

/-- A finite pattern stands for a number that is not negative, unless it has
the sign and is no zero. -/
theorem toRat_nonneg_iff (x : Binary64) :
    0 ≤ x.toRat ↔ (x.negative && !x.isZero) = false := by
  have hden : (0 : ℚ) < x.ratio.2 := Nat.cast_pos.mpr x.ratio_pos
  have hquotient : (0 : ℚ) ≤ x.ratio.1 / x.ratio.2 :=
    div_nonneg (Nat.cast_nonneg _) hden.le
  rw [toRat_eq_ratio]
  cases x.negative with
  | false => simpa using hquotient
  | true =>
    have hzero : (x.ratio.1 : ℚ) / x.ratio.2 ≤ 0 ↔ x.isZero = true := by
      rw [← ratio_eq_zero_iff, div_le_iff₀ hden, zero_mul]
      exact_mod_cast Nat.le_zero
    simpa using hzero

theorem toRat_of_nonneg {x : Binary64} (h : 0 ≤ x.toRat) :
    x.toRat = x.ratio.1 / x.ratio.2 := by
  have hsign := (toRat_nonneg_iff x).mp h
  rw [toRat_eq_ratio]
  cases hneg : x.negative with
  | false => simp
  | true =>
    have hzero : x.isZero = true := by simpa [hneg] using hsign
    simp [(ratio_eq_zero_iff x).mpr hzero]

/-! ## Integers -/

/-- The quotient of a number that is an integer comes out even. -/
theorem ratio_of_toRat {x : Binary64} {n : ℤ} (h : x.toRat = n) :
    x.ratio.1 = n.natAbs * x.ratio.2
      ∧ n = if x.negative then -(n.natAbs : ℤ) else n.natAbs := by
  have hden : (0 : ℚ) < x.ratio.2 := Nat.cast_pos.mpr x.ratio_pos
  rw [toRat_eq_ratio] at h
  have hsize : (x.ratio.1 : ℚ) / x.ratio.2 = (n.natAbs : ℚ) := by
    have habs := congrArg abs h
    rw [abs_mul, abs_of_nonneg (show (0 : ℚ) ≤ x.ratio.1 / x.ratio.2 by
      positivity)] at habs
    have hsign : |(if x.negative then (-1 : ℚ) else 1)| = 1 := by
      split <;> norm_num
    rw [hsign, one_mul] at habs
    rw [habs, Nat.cast_natAbs, Int.cast_abs]
  refine ⟨by rw [div_eq_iff hden.ne'] at hsize; exact_mod_cast hsize, ?_⟩
  refine Int.cast_injective (α := ℚ) (h.symm.trans ?_)
  rw [hsize]
  split <;> simp

/-- **The integer part of an integer is itself, and nothing is behind the point.** -/
theorem truncate?_of_toRat {x : Binary64} {n : ℤ} (finite : x.isFinite = true)
    (h : x.toRat = n) : x.truncate? = some n ∧ x.isIntegral = true := by
  obtain ⟨hratio, hsign⟩ := ratio_of_toRat h
  constructor
  · rw [truncate?, if_pos finite]
    dsimp only
    rw [hratio, Nat.mul_div_cancel _ x.ratio_pos, ← hsign]
  · rw [isIntegral, finite, hratio, Nat.mul_mod_left]
    rfl

/-- Where nothing is behind the point, there is an integer. -/
theorem exists_of_isIntegral {x : Binary64} (h : x.isIntegral = true) :
    ∃ n : ℤ, x.toRat = n := by
  have hden : (x.ratio.2 : ℚ) ≠ 0 := Nat.cast_ne_zero.mpr x.ratio_pos.ne'
  rw [isIntegral, Bool.and_eq_true, decide_eq_true_eq] at h
  obtain ⟨q, hq⟩ := Nat.dvd_of_mod_eq_zero h.2
  refine ⟨if x.negative then -q else q, ?_⟩
  rw [toRat_eq_ratio, hq, Nat.cast_mul, mul_div_cancel_left₀ _ hden]
  split <;> simp

/-! ## Integers of 64 bits with the top bit set -/

variable {n : Nat}

theorem log2_top (low : 0x8000000000000000 ≤ n)
    (high : n < 0x10000000000000000) : Nat.log2 n = 63 := by
  rw [Nat.log2_eq_log_two]
  exact (Nat.log_eq_iff (.inl (by decide))).mpr
    ⟨by simpa using low, by simpa using high⟩

/-- The significand of such an integer is its quotient by 2048, rounded. -/
theorem roundedMagnitude_top (low : 0x8000000000000000 ≤ n)
    (high : n < 0x10000000000000000) :
    roundedMagnitude n 1
      = 1085 * fractionModulus + roundHalfEven n 2048 := by
  have hfloor : floorLog2 n 1 = 63 := by
    have hone : Nat.log2 1 = 0 := by decide
    simp only [floorLog2, log2_top low high, hone]
    simp [low]
  have hq : roundHalfEven n 2048 ≤ 2 * fractionModulus := by
    simp only [roundHalfEven, fractionModulus]
    split <;> omega
  simp only [roundedMagnitude, hfloor]
  rw [if_neg (by omega)]
  have hexp : max ((63 : Int) - 52) (-1074) = 11 := by decide
  have hshift : (1 <<< Int.toNat 11 : Nat) = 2048 := by decide
  simp only [hexp, hshift]
  rw [if_pos (by decide)]
  simp only [infinityPattern, fractionModulus] at hq ⊢
  omega

theorem roundHalfEven_top (low : 0x8000000000000000 ≤ n)
    (high : n < 0x10000000000000000) :
    fractionModulus ≤ roundHalfEven n 2048
      ∧ roundHalfEven n 2048 ≤ 2 * fractionModulus := by
  simp only [roundHalfEven, fractionModulus]
  split <;> omega

theorem magnitude_ofMagnitude {m : Nat} (h : m < signModulus) :
    (ofMagnitude false m).magnitude = m
      ∧ (ofMagnitude false m).negative = false := by
  have hbits : (ofMagnitude false m).bits.toNat = m := by
    simp only [ofMagnitude, Bool.false_eq_true, if_false, Nat.add_zero,
      UInt64.toNat_ofNat']
    simp only [signModulus] at h
    omega
  simp only [magnitude, negative, hbits, decide_eq_false_iff_not]
  exact ⟨Nat.mod_eq_of_lt h, by omega⟩

theorem ofInt_top (n : Nat) :
    ofInt (n : Int) = ofMagnitude false (roundedMagnitude n 1) := by
  have hneg : decide ((n : Int) < 0) = false := by simp
  rw [ofInt, ofRatio, hneg, Int.natAbs_natCast]

/-- The parts of such a double. -/
theorem parts_ofInt (low : 0x8000000000000000 ≤ n)
    (high : n < 0x10000000000000000) :
    (ofInt (n : Int)).magnitude
        = 1085 * fractionModulus + roundHalfEven n 2048
      ∧ (ofInt (n : Int)).negative = false := by
  have hq := roundHalfEven_top low high
  rw [ofInt_top, roundedMagnitude_top low high]
  refine magnitude_ofMagnitude ?_
  simp only [signModulus, fractionModulus] at hq ⊢
  omega

/-- It is a number. -/
theorem ofInt_finite {i : Int} (low : Word.maxSigned < i)
    (high : i ≤ Word.max64) : (ofInt i).isFinite = true := by
  simp only [Word.maxSigned, Word.max64] at low high
  obtain ⟨n, rfl⟩ := Int.eq_ofNat_of_zero_le (show 0 ≤ i by omega)
  have hq := roundHalfEven_top (n := n) (by omega) (by omega)
  simp only [isFinite, (parts_ofInt (n := n) (by omega) (by omega)).1,
    infinityPattern, fractionModulus, decide_eq_true_eq] at hq ⊢
  omega

/-- The parts of a number with exponent bits. -/
theorem significand_normal {x : Binary64} {e f : Nat} (he : e ≠ 0)
    (hf : f < fractionModulus) (h : x.magnitude = e * fractionModulus + f) :
    x.significand = (f + fractionModulus, (e : Int) - 1075) := by
  have hdiv : x.magnitude / fractionModulus = e := by
    simp only [fractionModulus] at *
    omega
  have hmod : x.magnitude % fractionModulus = f := by
    simp only [fractionModulus] at *
    omega
  simp only [significand, hdiv, hmod, if_neg he]

theorem toRat_ofInt (low : 0x8000000000000000 ≤ n)
    (high : n < 0x10000000000000000) :
    (ofInt (n : Int)).toRat = ((roundHalfEven n 2048 * 2048 : Nat) : ℤ) := by
  obtain ⟨hmag, hneg⟩ := parts_ofInt low high
  obtain ⟨hq, hq'⟩ := roundHalfEven_top low high
  generalize roundHalfEven n 2048 = q at *
  -- The carry into the exponent happens exactly at the upper end.
  rcases Nat.lt_or_ge q (2 * fractionModulus) with h | h
  · have hparts : (ofInt (n : Int)).significand
        = (q - fractionModulus + fractionModulus, ((1086 : Nat) : Int) - 1075) :=
      significand_normal (by decide) (by omega) (by omega)
    rw [toRat, hneg, hparts, Nat.sub_add_cancel hq]
    norm_num
  · obtain rfl : q = 2 * fractionModulus := by omega
    have hparts : (ofInt (n : Int)).significand
        = (0 + fractionModulus, ((1087 : Nat) : Int) - 1075) :=
      significand_normal (by decide) (by decide) (by omega)
    rw [toRat, hneg, hparts]
    norm_num [fractionModulus]

/-! ## Nearness -/

/-- The significand of a double has 53 bits. -/
theorem significand_lt (x : Binary64) : x.significand.1 < 0x20000000000000 := by
  have h := Nat.mod_lt x.magnitude (show 0 < fractionModulus by decide)
  unfold significand
  dsimp only
  split
  · simp only [fractionModulus] at h ⊢
    omega
  · simp only [fractionModulus] at h ⊢
    omega

/-- With 53 bits in front, the exponent of a large double is at least
eleven. -/
theorem exponent_ge {m : Nat} {e : Int} (hm : m < 0x20000000000000)
    (h : (0x8000000000000000 : ℚ) ≤ m * 2 ^ e) : 11 ≤ e := by
  by_contra hne
  have hpow : (2 : ℚ) ^ e ≤ 2 ^ (10 : ℤ) :=
    zpow_le_zpow_right₀ (by norm_num) (by omega)
  have hle : (m : ℚ) ≤ 0x1FFFFFFFFFFFFF := by
    exact_mod_cast Nat.le_of_lt_succ hm
  have hmul : (m : ℚ) * 2 ^ e ≤ 0x1FFFFFFFFFFFFF * 2 ^ (10 : ℤ) :=
    mul_le_mul hle hpow (zpow_nonneg (by norm_num) e) (by norm_num)
  norm_num at h hmul
  linarith

/-- A double that is not below such integers is a multiple of 2048. -/
theorem toRat_multiple {y : Binary64}
    (h : (0x8000000000000000 : ℚ) ≤ y.toRat) :
    ∃ k : Nat, y.toRat = ((k * 2048 : Nat) : ℤ) := by
  have hlt := significand_lt y
  unfold toRat at *
  generalize y.significand.1 = m at *
  generalize y.significand.2 = e at *
  cases hneg : y.negative with
  | true =>
    have hnonneg : (0 : ℚ) ≤ (m : ℚ) * 2 ^ e :=
      mul_nonneg (Nat.cast_nonneg m) (zpow_nonneg (by norm_num) e)
    simp only [hneg, if_true, neg_mul, one_mul] at h
    linarith
  | false =>
    simp only [hneg, Bool.false_eq_true, if_false, one_mul] at h ⊢
    obtain ⟨d, rfl⟩ := Int.le.dest (exponent_ge hlt h)
    refine ⟨m * 2 ^ d, ?_⟩
    rw [zpow_add₀ (by norm_num)]
    push_cast
    norm_num
    ring

/-- **No double is nearer.** -/
theorem ofInt_nearest {i : Int} (low : Word.maxSigned < i)
    (high : i ≤ Word.max64) (y : Binary64) :
    |(ofInt i).toRat - i| ≤ |y.toRat - i| := by
  simp only [Word.maxSigned, Word.max64] at low high
  obtain ⟨n, rfl⟩ := Int.eq_ofNat_of_zero_le (show 0 ≤ i by omega)
  have hlow : 0x8000000000000000 ≤ n := by omega
  rw [toRat_ofInt hlow (by omega)]
  rcases le_or_gt (0x8000000000000000 : ℚ) y.toRat with h | h
  · obtain ⟨k, hk⟩ := toRat_multiple h
    rw [hk]
    exact_mod_cast roundHalfEven_nearest n 2048 k (by decide)
  · -- Below them all, their least one is nearer, and that is a multiple.
    have hnear := roundHalfEven_nearest n 2048 0x10000000000000 (by decide)
    rw [abs_of_nonpos (show ((0x10000000000000 * 2048 : Nat) : ℤ) - n ≤ 0
      by omega)] at hnear
    have hnear' : |(((roundHalfEven n 2048 * 2048 : Nat) : ℤ) : ℚ) - (n : ℤ)|
        ≤ -(((0x10000000000000 * 2048 : Nat) : ℤ) - (n : ℤ) : ℚ) := by
      exact_mod_cast hnear
    have hn : (0x8000000000000000 : ℚ) ≤ (n : ℚ) := by exact_mod_cast hlow
    refine hnear'.trans ?_
    push_cast
    rw [abs_of_nonpos (by linarith)]
    linarith

end ScriptHost.Binary64
