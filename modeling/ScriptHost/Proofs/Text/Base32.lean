/-
ScriptHost.Proofs.Text.Base32 — which texts are read as bytes, and as which.

A reader holds the bits of its whole bytes, followed by those that wait in
its word (`Reader.bits`). Taking a value in puts five bits behind them
(`bits_push`), so after any number of characters the reader holds just their
bits, in order, and the word has never lost one (`readAll?_bits`). The bytes
at the end are then the first bits of the text, as many as form whole bytes.

`encode` writes bytes the standard way: five bits a character, zeros behind
the last ones. `decode?_takes_whole_bytes` says for every text when it is
refused, what it is read as otherwise, and that all spellings of what
`encode` writes are read back.
-/
import Mathlib.Data.List.Basic
import ScriptHost.Text.Base32

namespace ScriptHost.Base32

/-! ## Characters -/

/-- Only lower case has another upper case. -/
theorem toUpper_of_not_isLower {c : Char} (h : ¬ c.isLower = true) :
    c.toUpper = c :=
  dif_neg fun hlower => h (Bool.and_eq_true_iff.mpr
    ⟨decide_eq_true hlower.1, decide_eq_true hlower.2⟩)

theorem value?_isSome_ascii : ∀ n < 128,
    (value? (Char.ofNat n)).isSome = true
      ↔ (Char.ofNat n).isAlpha = true
        ∨ ('2' ≤ Char.ofNat n ∧ Char.ofNat n ≤ '7') := by
  decide +kernel

/-- The characters are of ASCII, in upper case, and not padding. -/
theorem alphabet_upper {c : Char} (hc : c ∈ alphabet) :
    c.toNat < 128 ∧ c.toUpper = c ∧ c ≠ '=' := by
  have hall : alphabet.all
      (fun c => c.toNat < 128 ∧ c.toUpper = c ∧ c ≠ '=') = true := by
    decide
  exact of_decide_eq_true (List.all_eq_true.mp hall c hc)

/-- Letters of ASCII and the digits from two to seven have a value. -/
theorem value?_isSome_iff (c : Char) : (value? c).isSome = true
    ↔ c.isAlpha = true ∨ ('2' ≤ c ∧ c ≤ '7') := by
  rcases Nat.lt_or_ge c.toNat 128 with hlow | hhigh
  · have h := value?_isSome_ascii c.toNat hlow
    rwa [Char.ofNat_toNat] at h
  · -- Both sides are about characters below 128.
    have above : ∀ d : Char, d.toNat < 128 → ¬ c ≤ d := fun _ hd h =>
      absurd (Nat.le_trans hhigh h) (Nat.not_le.mpr hd)
    have hlower : ¬ c.isLower = true := fun h =>
      above 'z' (by decide) (of_decide_eq_true (Bool.and_eq_true_iff.mp h).2)
    have hupper : ¬ c.isUpper = true := fun h =>
      above 'Z' (by decide) (of_decide_eq_true h).2
    have hnot : c ∉ alphabet := fun hc =>
      Nat.not_lt.mpr hhigh (alphabet_upper hc).1
    rw [value?, List.isSome_idxOf?, toUpper_of_not_isLower hlower]
    refine iff_of_false hnot ?_
    rintro (halpha | ⟨-, h⟩)
    · exact (Bool.or_eq_true_iff.mp halpha).elim hupper hlower
    · exact above '7' (by decide) h

theorem value?_lt {c : Char} {v : Nat} (h : value? c = some v) : v < 32 := by
  obtain ⟨hv, -⟩ := List.idxOf?_eq_some_iff.mp h
  exact hv

/-- The characters that are not skipped. -/
def kept (cs : List Char) : List Char := cs.filter fun c => !isSkipped c

theorem kept_skipped {c : Char} (cs : List Char) (h : isSkipped c = true) :
    kept (c :: cs) = kept cs :=
  List.filter_cons_of_neg (by simp [h])

theorem kept_cons {c : Char} (cs : List Char) (h : ¬ isSkipped c = true) :
    kept (c :: cs) = c :: kept cs :=
  List.filter_cons_of_pos (by simp [h])

/-! ## Bits of numbers -/

/-- The low bits of a number, so many of them, the highest first. -/
def bits : Nat → Nat → List Bool
  | 0, _ => []
  | count + 1, n => n.testBit count :: bits count n

/-- The bits of a byte. -/
def byteBits (b : UInt8) : List Bool := bits 8 b.toNat

/-- The five bits of a character. -/
def fiveBits (c : Char) : List Bool := bits 5 ((value? c).getD 0)

@[simp] theorem length_bits (count n : Nat) :
    (bits count n).length = count := by
  induction count with
  | zero => rfl
  | succ count ih => rw [bits, List.length_cons, ih]

/-- Only the low bits of a number are looked at. -/
theorem bits_congr {count n m : Nat}
    (h : ∀ i < count, n.testBit i = m.testBit i) :
    bits count n = bits count m := by
  induction count with
  | zero => rfl
  | succ count ih =>
    rw [bits, bits, h count (Nat.lt_succ_self count),
      ih fun i hi => h i (Nat.lt_succ_of_lt hi)]

theorem bits_mod (count n : Nat) :
    bits count (n % Nat.pow 2 count) = bits count n := by
  refine bits_congr fun i hi => ?_
  rw [Nat.pow_eq, Nat.testBit_mod_two_pow, decide_eq_true hi, Bool.true_and]

/-- The high bits stand in front of the low ones. -/
theorem bits_add (high low n : Nat) :
    bits (high + low) n = bits high (n >>> low) ++ bits low n := by
  induction high with
  | zero => rw [Nat.zero_add]; rfl
  | succ high ih =>
    rw [Nat.succ_add, bits, bits, ih, Nat.testBit_shiftRight, Nat.add_comm low,
      List.cons_append]

theorem testBit_eq_of_bits {count n m i : Nat}
    (h : bits count n = bits count m) (hi : i < count) :
    n.testBit i = m.testBit i := by
  induction count with
  | zero => exact absurd hi (Nat.not_lt_zero i)
  | succ count ih =>
    obtain ⟨hfirst, hrest⟩ := List.cons.inj h
    rcases Nat.lt_succ_iff_lt_or_eq.mp hi with hlt | rfl
    · exact ih hrest hlt
    · exact hfirst

theorem byteBits_injective {a b : UInt8} (h : byteBits a = byteBits b) :
    a = b := by
  have high : ∀ (c : UInt8) (i : Nat), 8 ≤ i → c.toNat.testBit i = false :=
    fun c i hi => Nat.testBit_lt_two_pow
      (Nat.lt_of_lt_of_le c.toNat_lt (Nat.pow_le_pow_right (by decide) hi))
  refine UInt8.toNat_inj.mp (Nat.eq_of_testBit_eq fun i => ?_)
  rcases Nat.lt_or_ge i 8 with hlow | hhigh
  · exact testBit_eq_of_bits h hlow
  · rw [high a i hhigh, high b i hhigh]

/-- So many bits for each are as many for all. -/
theorem length_flatMap_of_length {α : Type} {f : α → List Bool} {count : Nat}
    (h : ∀ a, (f a).length = count) (as : List α) :
    (as.flatMap f).length = count * as.length := by
  induction as with
  | nil => rfl
  | cons a rest ih =>
    rw [List.flatMap_cons, List.length_append, ih, h, List.length_cons,
      Nat.mul_succ, Nat.add_comm]

theorem length_flatMap_byteBits (bytes : Bytes) :
    (bytes.flatMap byteBits).length = 8 * bytes.length :=
  length_flatMap_of_length (fun _ => length_bits 8 _) bytes

theorem length_flatMap_fiveBits (cs : List Char) :
    (cs.flatMap fiveBits).length = 5 * cs.length :=
  length_flatMap_of_length (fun _ => length_bits 5 _) cs

/-- Bytes are known by their bits. -/
theorem flatMap_byteBits_injective {as bs : Bytes}
    (h : as.flatMap byteBits = bs.flatMap byteBits) : as = bs := by
  induction as generalizing bs with
  | nil =>
    have hlength := congrArg List.length h
    rw [length_flatMap_byteBits, length_flatMap_byteBits] at hlength
    refine (List.eq_nil_of_length_eq_zero ?_).symm
    simp only [List.length_nil] at hlength
    omega
  | cons a as ih =>
    cases bs with
    | nil =>
      have hlength := congrArg List.length h
      rw [length_flatMap_byteBits, length_flatMap_byteBits] at hlength
      simp only [List.length_nil, List.length_cons] at hlength
      omega
    | cons b bs =>
      rw [List.flatMap_cons, List.flatMap_cons] at h
      obtain ⟨hfirst, hrest⟩ := List.append_inj h (by simp [byteBits])
      rw [byteBits_injective hfirst, ih hrest]

/-! ## The word -/

/-- A word with room for five bits takes a value in whole. -/
theorem toNat_shifted {b : UInt32} {v : Nat} (room : b.toNat < 0x8000000)
    (hv : v < 32) :
    ((b <<< 5) ||| UInt32.ofNat v).toNat = b.toNat * 32 + v := by
  have hshift : b.toNat <<< 5 % 2 ^ 32 = b.toNat <<< 5 :=
    Nat.mod_eq_of_lt (by rw [Nat.shiftLeft_eq]; omega)
  have hvalue : v % 2 ^ 32 = v := Nat.mod_eq_of_lt (by omega)
  rw [UInt32.toNat_or, UInt32.toNat_shiftLeft, UInt32.toNat_ofNat', hvalue]
  rw [show (5 : UInt32).toNat % 32 = 5 from rfl, hshift,
    ← Nat.shiftLeft_add_eq_or_of_lt (show v < 2 ^ 5 from hv),
    Nat.shiftLeft_eq]

theorem toNat_mask : ∀ k < 8,
    ((1 <<< UInt32.ofNat k) - 1 : UInt32).toNat = Nat.pow 2 k - 1 := by
  decide

/-- The bits behind the first ones of a word. -/
theorem toNat_masked (b : UInt32) {k : Nat} (hk : k < 8) :
    (b &&& ((1 <<< UInt32.ofNat k) - 1)).toNat
      = b.toNat % Nat.pow 2 k := by
  rw [UInt32.toNat_and, toNat_mask k hk, Nat.pow_eq,
    Nat.and_two_pow_sub_one_eq_mod]

/-- The byte in front of the last bits of a word. -/
theorem byteBits_shifted (b : UInt32) {k : Nat} (hk : k < 8) :
    byteBits (b >>> UInt32.ofNat k).toUInt8 = bits 8 (b.toNat >>> k) := by
  have hcount : (UInt32.ofNat k).toNat % 32 = k := by
    rw [UInt32.toNat_ofNat']
    omega
  rw [byteBits, UInt32.toNat_toUInt8, UInt32.toNat_shiftRight, hcount]
  exact bits_mod 8 _

/-! ## Readers -/

namespace Reader

/-- The bits that a reader holds: those of the whole bytes, and those that
wait. -/
def bits (r : Reader) : List Bool :=
  r.done.reverse.flatMap byteBits ++ Base32.bits r.waiting r.buffer.toNat

/-- Less than a byte waits, and nothing else is in the word. -/
structure Sound (r : Reader) : Prop where
  waiting_lt : r.waiting < 8
  buffer_lt : r.buffer.toNat < Nat.pow 2 r.waiting

theorem sound_start : start.Sound := ⟨by decide, by decide⟩

variable {r : Reader} {v : Nat}

/-- The word has room for five bits more. -/
theorem Sound.room (h : r.Sound) : r.buffer.toNat < 0x8000000 := by
  have hpow : (2 : Nat) ^ r.waiting ≤ 2 ^ 7 :=
    Nat.pow_le_pow_right (by decide) (by have := h.waiting_lt; omega)
  have hbuffer : r.buffer.toNat < 2 ^ r.waiting := h.buffer_lt
  omega

/-- The word after a value was taken in holds its bits behind the others. -/
theorem bits_shifted (r : Reader) (hv : v < 32) :
    Base32.bits (r.waiting + 5) (r.buffer.toNat * 32 + v)
      = Base32.bits r.waiting r.buffer.toNat ++ Base32.bits 5 v := by
  have hhigh : (r.buffer.toNat * 32 + v) >>> 5 = r.buffer.toNat := by
    rw [Nat.shiftRight_eq_div_pow]
    omega
  have hlow : (r.buffer.toNat * 32 + v) % Nat.pow 2 5 = v := by
    rw [show Nat.pow 2 5 = 32 from rfl]
    omega
  rw [bits_add, hhigh, ← bits_mod 5 (r.buffer.toNat * 32 + v), hlow]

/-- **A value is put behind what the reader holds.** -/
theorem bits_push (h : r.Sound) (hv : v < 32) :
    (r.push v).bits = r.bits ++ Base32.bits 5 v := by
  have hword := toNat_shifted h.room hv
  have hwaiting := h.waiting_lt
  unfold push
  dsimp only
  split
  · rename_i hfull
    -- The first eight bits of the word leave it as a byte.
    have hk : r.waiting + 5 - 8 < 8 := by omega
    simp only [bits, List.reverse_cons, List.flatMap_append,
      List.flatMap_singleton, List.append_assoc]
    rw [byteBits_shifted _ hk, toNat_masked _ hk, bits_mod, hword, ← bits_add,
      show 8 + (r.waiting + 5 - 8) = r.waiting + 5 by omega,
      bits_shifted r hv]
  · simp only [bits]
    rw [hword, bits_shifted r hv, List.append_assoc]

theorem sound_push (h : r.Sound) (hv : v < 32) : (r.push v).Sound := by
  have hword := toNat_shifted h.room hv
  have hwaiting := h.waiting_lt
  have hbuffer : r.buffer.toNat < 2 ^ r.waiting := h.buffer_lt
  unfold push
  dsimp only
  split
  · rename_i hfull
    refine ⟨by dsimp only; omega, ?_⟩
    dsimp only
    rw [toNat_masked _ (by omega)]
    exact Nat.mod_lt _ (Nat.two_pow_pos _)
  · rename_i hshort
    refine ⟨by dsimp only; omega, ?_⟩
    dsimp only
    rw [hword, Nat.pow_eq, Nat.pow_add]
    omega

theorem readAll?_skipped (r : Reader) {c : Char} (cs : List Char)
    (h : isSkipped c = true) : r.readAll? (c :: cs) = r.readAll? cs := by
  simp only [readAll?, List.foldlM_cons, read?, if_pos h]
  rfl

theorem readAll?_cons (r : Reader) {c : Char} (cs : List Char)
    (h : ¬ isSkipped c = true) :
    r.readAll? (c :: cs)
      = (value? c).bind fun v => (r.push v).readAll? cs := by
  simp only [readAll?, List.foldlM_cons, read?, if_neg h]
  cases value? c <;> rfl

/-- Characters are read unless one of those not skipped has no value. -/
theorem readAll?_isSome_iff (r : Reader) (cs : List Char) :
    (r.readAll? cs).isSome = true
      ↔ ∀ c ∈ kept cs, (value? c).isSome = true := by
  induction cs generalizing r with
  | nil => exact iff_of_true rfl (by simp [kept])
  | cons c rest ih =>
    by_cases hc : isSkipped c = true
    · rw [readAll?_skipped r rest hc, ih, kept_skipped rest hc]
    · rw [readAll?_cons r rest hc, kept_cons rest hc, List.forall_mem_cons]
      cases value? c with
      | none => simp
      | some v => simp [ih]

/-- **The bits of all characters are kept.** A reader that has read
characters holds their bits behind those it held before. -/
theorem readAll?_bits {cs : List Char} {t : Reader} (h : r.Sound)
    (reads : r.readAll? cs = some t) :
    t.Sound ∧ t.bits = r.bits ++ (kept cs).flatMap fiveBits := by
  induction cs generalizing r with
  | nil =>
    obtain rfl := Option.some.inj reads
    exact ⟨h, (List.append_nil _).symm⟩
  | cons c rest ih =>
    by_cases hc : isSkipped c = true
    · rw [readAll?_skipped r rest hc] at reads
      rw [kept_skipped rest hc]
      exact ih h reads
    · rw [readAll?_cons r rest hc] at reads
      obtain ⟨v, hv, reads⟩ := Option.bind_eq_some_iff.mp reads
      have hlt := value?_lt hv
      obtain ⟨hsound, hbits⟩ := ih (sound_push h hlt) reads
      refine ⟨hsound, ?_⟩
      rw [hbits, bits_push h hlt, List.append_assoc, kept_cons rest hc,
        List.flatMap_cons, fiveBits, hv]
      rfl

end Reader

/-! ## Whole texts -/

theorem decode?_eq_none_iff (s : String) :
    decode? s = none ↔ ∃ c ∈ kept s.toList, value? c = none := by
  have hread := Reader.readAll?_isSome_iff .start s.toList
  rw [decode?, decodeChars?, Option.map_eq_none_iff,
    ← Option.not_isSome_iff_eq_none, hread]
  simp

/-- **The bytes of a text are the first bits of its characters**, as many as
form whole bytes. -/
theorem bits_of_decode? {s : String} {bytes : Bytes}
    (h : decode? s = some bytes) :
    bytes.length = 5 * (kept s.toList).length / 8
      ∧ bytes.flatMap byteBits
        = ((kept s.toList).flatMap fiveBits).take (8 * bytes.length) := by
  obtain ⟨r, reads, rfl⟩ := Option.map_eq_some_iff.mp h
  obtain ⟨hsound, hbits⟩ := Reader.readAll?_bits Reader.sound_start reads
  have hwaiting := hsound.waiting_lt
  have hbits : r.done.reverse.flatMap byteBits
      ++ bits r.waiting r.buffer.toNat = (kept s.toList).flatMap fiveBits :=
    hbits
  have hlength := congrArg List.length hbits
  rw [List.length_append, length_flatMap_byteBits, length_bits,
    length_flatMap_fiveBits] at hlength
  refine ⟨by omega, ?_⟩
  rw [← hbits, ← length_flatMap_byteBits, List.take_left]

/-! ## Writing -/

/-- The character of five bits. -/
def letter (a b c d e : Bool) : Char :=
  alphabet.getD (16 * a.toNat + 8 * b.toNat + 4 * c.toNat + 2 * d.toNat
    + e.toNat) 'A'

/-- The characters for bits, five by five. Zeros fill the last five. -/
def lettersOfBits : List Bool → List Char
  | a :: b :: c :: d :: e :: rest => letter a b c d e :: lettersOfBits rest
  | [a, b, c, d] => [letter a b c d false]
  | [a, b, c] => [letter a b c false false]
  | [a, b] => [letter a b false false false]
  | [a] => [letter a false false false false]
  | [] => []

/-- Bytes as characters. -/
def encode (bytes : Bytes) : List Char :=
  lettersOfBits (bytes.flatMap byteBits)

/-- What completes the last group of eight characters. -/
def padding (cs : List Char) : List Char :=
  List.replicate ((8 - cs.length % 8) % 8) '='

/-- Does the text spell the bytes? With or without padding, in any case, and
with blanks anywhere. -/
def Spells (s : String) (bytes : Bytes) : Prop :=
  (s.toList.filter fun c => !isBlank c).map Char.toUpper
    ∈ [encode bytes, encode bytes ++ padding (encode bytes)]

theorem fiveBits_letter : ∀ a b c d e : Bool,
    fiveBits (letter a b c d e) = [a, b, c, d, e] := by decide

/-- Characters written for bits have these bits, and fewer than five zeros
behind them. -/
theorem fiveBits_lettersOfBits (bs : List Bool) :
    ∃ fill, fill.length < 5
      ∧ (lettersOfBits bs).flatMap fiveBits = bs ++ fill := by
  fun_induction lettersOfBits bs with
  | case1 a b c d e rest ih =>
    obtain ⟨fill, hfill, hbits⟩ := ih
    refine ⟨fill, hfill, ?_⟩
    rw [List.flatMap_cons, fiveBits_letter, hbits]
    rfl
  | case2 a b c d => exact ⟨[false], by decide, by simp [fiveBits_letter]⟩
  | case3 a b c => exact ⟨[false, false], by decide, by simp [fiveBits_letter]⟩
  | case4 a b =>
    exact ⟨[false, false, false], by decide, by simp [fiveBits_letter]⟩
  | case5 a =>
    exact ⟨[false, false, false, false], by decide, by simp [fiveBits_letter]⟩
  | case6 => exact ⟨[], by decide, rfl⟩

theorem letter_mem : ∀ a b c d e : Bool, letter a b c d e ∈ alphabet := by
  decide

theorem mem_encode {bytes : Bytes} {c : Char} (h : c ∈ encode bytes) :
    c ∈ alphabet := by
  unfold encode at h
  generalize bytes.flatMap byteBits = bs at h
  fun_induction lettersOfBits bs with
  | case1 a b c d e rest ih =>
    rcases List.mem_cons.mp h with rfl | h
    · exact letter_mem a b c d e
    · exact ih h
  | case2 | case3 | case4 | case5 =>
    obtain rfl := List.mem_singleton.mp h
    exact letter_mem _ _ _ _ _
  | case6 => cases h

/-! ## Reading what was written -/

/-- The value of a character is that of its upper case. -/
theorem value?_toUpper {c : Char} (h : c.toUpper ∈ alphabet) :
    value? c.toUpper = value? c := by
  rw [value?, (alphabet_upper h).2.1, value?]

/-- No letter is padding in upper case. -/
theorem toUpper_lower_ne_pad : ∀ n < 128, (Char.ofNat n).isLower = true →
    (Char.ofNat n).toUpper ≠ '=' := by
  decide +kernel

/-- Only padding is padding in upper case. -/
theorem toUpper_eq_pad {c : Char} : c.toUpper = '=' ↔ c = '=' := by
  constructor
  · intro h
    by_cases hlower : c.isLower = true
    · have hle : c ≤ 'z' :=
        of_decide_eq_true (Bool.and_eq_true_iff.mp hlower).2
      have hpad := toUpper_lower_ne_pad c.toNat
        (Nat.lt_of_le_of_lt hle (by decide))
      rw [Char.ofNat_toNat] at hpad
      exact absurd h (hpad hlower)
    · rwa [toUpper_of_not_isLower hlower] at h
  · rintro rfl
    decide

/-- In a text that spells bytes, the characters not skipped are, in upper
case, those that were written for the bytes. -/
theorem Spells.kept_toUpper {s : String} {bytes : Bytes}
    (h : Spells s bytes) :
    (kept s.toList).map Char.toUpper = encode bytes := by
  have hkept : (kept s.toList).map Char.toUpper
      = ((s.toList.filter fun c => !isBlank c).map Char.toUpper).filter
        fun c => c ≠ '=' := by
    rw [List.filter_map, List.filter_filter, kept]
    congr 2
    funext c
    simp [isSkipped, toUpper_eq_pad, Bool.and_comm]
  have hletters : (encode bytes).filter (fun c => c ≠ '=') = encode bytes := by
    refine List.filter_eq_self.mpr fun c hc => ?_
    simpa using (alphabet_upper (mem_encode hc)).2.2
  rw [hkept]
  rcases List.mem_pair.mp h with h | h
  · rw [h, hletters]
  · rw [h, List.filter_append, hletters, padding, List.filter_replicate_of_neg
      (by decide), List.append_nil]

/-- **Every spelling of bytes is read as them.** -/
theorem decode?_of_spells {s : String} {bytes : Bytes} (h : Spells s bytes) :
    decode? s = some bytes := by
  have hkept := h.kept_toUpper
  have halphabet : ∀ c ∈ kept s.toList, c.toUpper ∈ alphabet := fun c hc =>
    mem_encode (hkept ▸ List.mem_map_of_mem hc)
  have hbits : (kept s.toList).flatMap fiveBits
      = (encode bytes).flatMap fiveBits := by
    rw [← hkept, List.flatMap_map]
    refine List.flatMap_congr fun c hc => ?_
    rw [fiveBits, fiveBits, value?_toUpper (halphabet c hc)]
  obtain ⟨fill, hfill, hencoded⟩ :=
    fiveBits_lettersOfBits (bytes.flatMap byteBits)
  rw [← encode, ← hbits] at hencoded
  cases hdecode : decode? s with
  | none =>
    obtain ⟨c, hc, hnone⟩ := (decode?_eq_none_iff s).mp hdecode
    rw [value?, List.idxOf?_eq_none_iff] at hnone
    exact absurd (halphabet c hc) hnone
  | some found =>
    obtain ⟨hlength, hfound⟩ := bits_of_decode? hdecode
    have htotal := congrArg List.length hencoded
    rw [length_flatMap_fiveBits, List.length_append, length_flatMap_byteBits]
      at htotal
    have hsame : found.length = bytes.length := by omega
    rw [hencoded, hsame, ← length_flatMap_byteBits, List.take_left] at hfound
    rw [flatMap_byteBits_injective hfound]

/-- **Which texts are read, and as which bytes.** A text is refused exactly
if one of its characters is neither a blank nor padding nor a letter of ASCII
nor a digit from two to seven. Otherwise its bytes are the first bits of the
characters that are neither blanks nor padding, as many as form whole bytes.
Every spelling of what is written for bytes is read as these bytes. And
wherever a reader stands in the text, it holds just the bits of what it has
read, and its word takes the next five in without losing one. -/
theorem decode?_takes_whole_bytes (s : String) :
    (decode? s = none ↔ ∃ c ∈ s.toList, isBlank c = false ∧ c ≠ '='
        ∧ ¬ (c.isAlpha = true ∨ ('2' ≤ c ∧ c ≤ '7')))
    ∧ (∀ bytes, decode? s = some bytes →
      bytes.length = 5 * (kept s.toList).length / 8
        ∧ bytes.flatMap byteBits
          = ((kept s.toList).flatMap fiveBits).take (8 * bytes.length))
    ∧ (∀ bytes, Spells s bytes → decode? s = some bytes)
    ∧ ∀ front rest, s.toList = front ++ rest →
      ∀ r, Reader.start.readAll? front = some r →
        r.bits = (kept front).flatMap fiveBits
          ∧ r.waiting < 8 ∧ r.buffer.toNat < Nat.pow 2 r.waiting
          ∧ ∀ v < 32, ((r.buffer <<< 5) ||| UInt32.ofNat v).toNat
            = r.buffer.toNat * 32 + v := by
  refine ⟨?_, fun _ => bits_of_decode?, fun _ => decode?_of_spells, ?_⟩
  · rw [decode?_eq_none_iff]
    refine exists_congr fun c => ?_
    rw [← value?_isSome_iff, Option.not_isSome_iff_eq_none]
    simp [kept, isSkipped, and_assoc]
  · intro front _ _ r reads
    obtain ⟨hsound, hbits⟩ := Reader.readAll?_bits Reader.sound_start reads
    exact ⟨hbits, hsound.waiting_lt, hsound.buffer_lt,
      fun _ hv => toNat_shifted hsound.room hv⟩

/-- Three bytes in both cases, with blanks inside and padding cut up. The
reader has one byte and two bits of the next after two letters. -/
theorem decode?_scattered :
    Spells "mZ\u00A0xW 6=\n==" [0x66, 0x6F, 0x6F]
      ∧ decode? "mZ\u00A0xW 6=\n==" = some [0x66, 0x6F, 0x6F]
      ∧ Reader.start.readAll? ['m', 'Z'] = some ⟨[0x66], 1, 2⟩
      ∧ (⟨[0x66], 1, 2⟩ : Reader).bits = ['m', 'Z'].flatMap fiveBits := by
  have spells : Spells "mZ\u00A0xW 6=\n==" [0x66, 0x6F, 0x6F] := by
    unfold Spells
    decide
  have reads : Reader.start.readAll? ['m', 'Z'] = some ⟨[0x66], 1, 2⟩ := by
    decide
  obtain ⟨-, -, spelled, reading⟩ :=
    decode?_takes_whole_bytes "mZ\u00A0xW 6=\n=="
  exact ⟨spells, spelled _ spells, reads, (reading _ _ rfl _ reads).1⟩

end ScriptHost.Base32
