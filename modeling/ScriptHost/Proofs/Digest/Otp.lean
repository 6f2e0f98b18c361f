/-
ScriptHost.Proofs.Digest.Otp — which tokens are accepted, and when.

A token is compared as text with the code of a step. `verify_iff_hotp` says
what this means for the number that the token spells: six digits are the
code with zeros in front exactly if they spell the code. It also says that
no place in a digest, no step and no count of bits leaves its range.
-/
import ScriptHost.Digest.Otp
import ScriptHost.Proofs.Number.Decimal
import ScriptHost.Proofs.Text.Base32
import ScriptHost.Proofs.Text.Utf8

namespace ScriptHost.Otp

/-! ## Tokens -/

/-- The bytes of a character are digits exactly if it is a digit. -/
theorem digit_bytes_iff (c : Char) :
    (∀ b ∈ Utf8.encodeChar c, 0x30 ≤ b ∧ b ≤ 0x39) ↔ c.isDigit = true := by
  rw [Char.isDigit_iff_toNat, show '0'.toNat = 0x30 from rfl,
    show '9'.toNat = 0x39 from rfl]
  simp only [UInt8.le_iff_toNat_le]
  rcases Nat.lt_or_ge c.toNat 0x80 with hlow | hhigh
  · rw [Utf8.encodeChar_ascii hlow, List.forall_mem_singleton,
      Utf8.toNat_byte (by omega)]
    exact Iff.rfl
  · constructor
    · intro h
      obtain ⟨b, rest, hbytes⟩ :=
        List.exists_cons_of_ne_nil (Utf8.encodeChar_ne_nil c)
      have hmem : b ∈ Utf8.encodeChar c := by simp [hbytes]
      have hb := Utf8.le_of_mem_encodeChar hhigh hmem
      have hdigit : b.toNat ≤ 0x39 := (h b hmem).2
      omega
    · omega

/-- A token is a text of six digits. -/
theorem isToken_iff (token : String) :
    isToken token = true
      ↔ token.toList.length = 6
        ∧ ∀ c ∈ token.toList, c.isDigit = true := by
  have hdigits : (∀ b ∈ Utf8.ofString token, 0x30 ≤ b ∧ b ≤ 0x39)
      ↔ ∀ c ∈ token.toList, c.isDigit = true := by
    simp only [← digit_bytes_iff, Utf8.ofString, Utf8.encode,
      List.mem_flatMap]
    constructor
    · intro h c hc b hb
      exact h b ⟨c, hc, hb⟩
    · rintro h b ⟨c, hc, hb⟩
      exact h c hc b hb
  have hlength : (∀ c ∈ token.toList, c.isDigit = true) →
      (Utf8.ofString token).length = token.toList.length := by
    intro h
    have hascii : ∀ c ∈ token.toList, c.toNat < 0x80 := by
      intro c hc
      have hdigit := (Char.isDigit_iff_toNat.mp (h c hc)).2
      exact Nat.lt_of_le_of_lt hdigit (by decide)
    rw [Utf8.ofString, Utf8.encode_ascii hascii, List.length_map]
  simp only [isToken, Bool.and_eq_true, decide_eq_true_eq, List.all_eq_true,
    hdigits]
  simp only [digits]
  exact and_congr_left fun h => by rw [hlength h]

/-- **Six digits are the text of a code exactly if they spell it.** -/
theorem padded_eq_iff {token : String} {code : Nat}
    (htoken : isToken token = true) (hcode : code < 1000000) :
    Decimal.padded digits code = token
      ↔ code = ofDigits 10 token.toList := by
  obtain ⟨hlength, hdigits⟩ := (isToken_iff token).mp htoken
  have hne : token.toList ≠ [] :=
    List.length_pos_iff.mp (by rw [hlength]; decide)
  constructor
  · rintro rfl
    rw [Decimal.padded, String.toList_ofList]
    exact (Decimal.paddedChars_digits (by decide) hcode).2.2.symm
  · rintro rfl
    have hback := Decimal.paddedChars_ofDigits hne hdigits
    rw [hlength] at hback
    rw [Decimal.padded, digits, hback, String.ofList_toList]

/-! ## Codes -/

theorem hotp?_eq (key : Bytes) (counter : Nat) :
    hotp? key counter = some (hotp key counter) :=
  (Option.some_get _).symm

/-- A code has at most six digits. -/
theorem hotp_lt (key : Bytes) (counter : Nat) :
    hotp key counter < 1000000 := by
  obtain ⟨n, -, hn⟩ := Option.map_eq_some_iff.mp (hotp?_eq key counter)
  rw [← hn]
  exact Nat.mod_lt n (by decide)

/-- The text of a code is a token. -/
theorem isToken_padded (key : Bytes) (counter : Nat) :
    isToken (Decimal.padded digits (hotp key counter)) = true := by
  obtain ⟨hlength, hdigits, -⟩ :=
    Decimal.paddedChars_digits (show 0 < digits by decide)
      (hotp_lt key counter)
  rw [isToken_iff, Decimal.padded, String.toList_ofList]
  exact ⟨hlength, hdigits⟩

/-! ## Steps -/

theorem mem_steps {time step : Int} :
    step ∈ steps time
      ↔ step = time / 30 - 1 ∨ step = time / 30 ∨ step = time / 30 + 1 := by
  simp only [steps, stepSeconds, List.map_cons, List.map_nil, List.mem_cons,
    List.not_mem_nil, or_false]
  omega

/-- A step is looked at from its predecessor's beginning to its successor's
end. -/
theorem mem_steps_iff {time step : Int} :
    step ∈ steps time ↔ 30 * (step - 1) ≤ time ∧ time < 30 * (step + 2) := by
  rw [mem_steps]
  omega

theorem isSigned_steps {time step : Int} (htime : Word.isSigned time = true)
    (hstep : step ∈ steps time) : Word.isSigned step = true := by
  rw [mem_steps] at hstep
  simp only [Word.isSigned, Bool.and_eq_true, decide_eq_true_eq] at htime ⊢
  simp only [Word.minSigned, Word.maxSigned] at htime ⊢
  omega

/-! ## Verification -/

theorem key?_eq_some_iff {secret : String} {key : Bytes} :
    key? secret = some key
      ↔ Base32.decode? secret = some key ∧ key ≠ [] := by
  rw [key?, Option.filter_eq_some_iff]
  simp

/-- A token is accepted for the code of a step that is looked at. -/
theorem verify_eq_true_iff {secret token : String} {time : Int} :
    verify secret token time = true
      ↔ isToken token = true ∧ ∃ key, key? secret = some key
        ∧ ∃ step ∈ steps time, 0 ≤ step
          ∧ Decimal.padded digits (hotp key step.toNat) = token := by
  unfold verify
  cases isToken token with
  | false => simp
  | true =>
    cases key? secret with
    | none => simp
    | some key => simp [hotp?_eq]

/-- **Which tokens are accepted, and when.** A token is accepted exactly if
it is a text of six digits, the secret stands for a key that is not empty,
and the digits spell the code of the step of the time, the one before or the
one after it, which must not be negative. So the code of a step, with zeros
in front, is accepted from the beginning of the step before to the end of the
step after. No place in a digest lies outside of it, steps of times of 64
bits have 64 bits too, and fewer than eight bits ever wait while the secret
is read, so that the word is never shifted by its own width. -/
theorem verify_iff_hotp (secret token : String) :
    (∀ time : Int, verify secret token time = true
      ↔ (token.toList.length = 6 ∧ ∀ c ∈ token.toList, c.isDigit = true)
        ∧ ∃ key, Base32.decode? secret = some key ∧ key ≠ []
          ∧ ∃ step : Int, (step = time / 30 - 1 ∨ step = time / 30
              ∨ step = time / 30 + 1)
            ∧ 0 ≤ step ∧ hotp key step.toNat = ofDigits 10 token.toList)
    ∧ (∀ key, Base32.decode? secret = some key → key ≠ [] →
      ∀ (step : Nat) (time : Int), 30 * ((step : Int) - 1) ≤ time →
        time < 30 * ((step : Int) + 2) →
        verify secret (Decimal.padded 6 (hotp key step)) time = true)
    ∧ (∀ key counter, hotp? key counter = some (hotp key counter))
    ∧ (∀ time, Word.isSigned time = true →
      ∀ step ∈ steps time, Word.isSigned step = true)
    ∧ ∀ front rest, secret.toList = front ++ rest →
      ∀ r, Base32.Reader.start.readAll? front = some r → r.waiting < 8 := by
  refine ⟨fun time => ?_, fun key hkey hne step time hfrom hto => ?_, hotp?_eq,
    fun time htime step => isSigned_steps htime, fun front _ _ r reads => ?_⟩
  · rw [verify_eq_true_iff, ← isToken_iff]
    refine and_congr_right fun htoken => exists_congr fun key => ?_
    rw [key?_eq_some_iff, and_assoc]
    refine and_congr_right fun _ => and_congr_right fun _ => ?_
    refine exists_congr fun step => ?_
    rw [mem_steps, padded_eq_iff htoken (hotp_lt key step.toNat)]
  · rw [verify_eq_true_iff]
    refine ⟨isToken_padded key step, key, key?_eq_some_iff.mpr ⟨hkey, hne⟩,
      step, mem_steps_iff.mpr ⟨hfrom, hto⟩, Int.natCast_nonneg step, ?_⟩
    rw [Int.toNat_natCast, digits]
  · exact (Base32.Reader.readAll?_bits Base32.Reader.sound_start reads).1.1

/-- The secret of twenty bytes that the published examples use. -/
def publishedSecret : String := "GEZDGNBVGY3TQOJQGEZDGNBVGY3TQOJQ"

/-- Its key. -/
def publishedKey : Bytes :=
  "12345678901234567890".toList.map fun c => Utf8.byte c.toNat

/-- The token of step 1 is accepted from time 0 on until time 90. -/
theorem verify_published :
    Base32.decode? publishedSecret = some publishedKey
      ∧ hotp publishedKey 1 = 287082
      ∧ verify publishedSecret "287082" 0 = true
      ∧ verify publishedSecret "287082" 89 = true
      ∧ verify publishedSecret "287082" 90 = false := by
  have hkey : Base32.decode? publishedSecret = some publishedKey := by
    decide +kernel
  have hcode : hotp publishedKey 1 = 287082 := by decide +kernel
  have htoken : Decimal.padded 6 (hotp publishedKey 1) = "287082" := by
    rw [hcode]
    rfl
  obtain ⟨-, accepts, -, -, -⟩ := verify_iff_hotp publishedSecret "287082"
  have accepts := accepts publishedKey hkey (by decide) 1
  rw [htoken] at accepts
  exact ⟨hkey, hcode, accepts 0 (by decide) (by decide),
    accepts 89 (by decide) (by decide), by decide +kernel⟩

end ScriptHost.Otp
