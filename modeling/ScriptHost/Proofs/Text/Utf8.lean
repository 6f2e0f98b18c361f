/-
ScriptHost.Proofs.Text.Utf8 — written text is read back, and what reads as
a text was written.

`pieces_encodeChar` reads the bytes of one character off the front of any
bytes; there is one case for each number of bytes that a character takes.
The other way round, `encode_of_pieces` finds the bytes again from which
characters were cut. `toString?_eq_ok_iff` puts the two together: bytes read
as a text exactly if they are the bytes of that text.
-/
import Mathlib.Logic.Function.Basic
import ScriptHost.Text.Utf8

namespace ScriptHost.Utf8

/-! ## Bytes and numbers -/

theorem toNat_byte {n : Nat} (h : n < 256) : (byte n).toNat = n := by
  simp only [byte, UInt8.toNat_ofNat']
  omega

/-- A byte inside a character holds six bits. -/
theorem tailBits_byte (n : Nat) : tailBits (byte (0x80 + n % 64)) = n % 64 := by
  rw [tailBits, toNat_byte (by omega)]
  omega

theorem isTail_byte (n : Nat) : isTail (byte (0x80 + n % 64)) = true := by
  simp only [isTail, toNat_byte (show 0x80 + n % 64 < 256 by omega),
    Bool.and_eq_true, decide_eq_true_eq]
  omega

/-- The numbers of characters leave out the surrogates and end below
0x110000. -/
theorem toNat_valid (c : Char) :
    c.toNat < 0xD800 ∨ (0xDFFF < c.toNat ∧ c.toNat < 0x110000) := by
  have h := c.valid
  simp only [UInt32.isValidChar, Nat.isValidChar] at h
  exact h

/-! ## One character -/

/-- The second byte of a character fits its first one, if the number in it
is in the first byte's range. -/
theorem isSecond_byte {a n : Nat} (ha : a < 256)
    (h : (secondRange a).1 ≤ 0x80 + n % 64
      ∧ 0x80 + n % 64 < (secondRange a).2) :
    isSecond (byte a) (byte (0x80 + n % 64)) = true := by
  simp only [isSecond, toNat_byte ha,
    toNat_byte (show 0x80 + n % 64 < 256 by omega), Bool.and_eq_true,
    decide_eq_true_eq]
  exact h

theorem pieces_one {n : Nat} (h : n < 0x80) (rest : Bytes) :
    pieces (byte n :: rest) = .char (Char.ofNat n) :: pieces rest := by
  rw [pieces.eq_def]
  simp only [toNat_byte (show n < 256 by omega), if_pos h]

theorem pieces_two {n : Nat} (h₁ : 0x80 ≤ n) (h₂ : n < 0x800)
    (rest : Bytes) :
    pieces (byte (0xC0 + n / 64) :: byte (0x80 + n % 64) :: rest)
      = .char (Char.ofNat n) :: pieces rest := by
  have ha : (byte (0xC0 + n / 64)).toNat = 0xC0 + n / 64 :=
    toNat_byte (by omega)
  have hrange : secondRange (0xC0 + n / 64) = (0x80, 0xC0) := by
    simp only [secondRange]
    rw [if_neg (by omega), if_neg (by omega), if_neg (by omega),
      if_neg (by omega)]
  have hb : isSecond (byte (0xC0 + n / 64)) (byte (0x80 + n % 64)) = true :=
    isSecond_byte (by omega) (by rw [hrange]; omega)
  rw [pieces.eq_def]
  simp only [ha, hb, tailBits_byte]
  rw [if_neg (by omega), if_neg (by omega)]
  rw [if_neg (by decide), if_pos (by omega)]
  congr 3
  omega

theorem pieces_three {n : Nat} (h₁ : 0x800 ≤ n) (h₂ : n < 0x10000)
    (hs : n < 0xD800 ∨ 0xDFFF < n) (rest : Bytes) :
    pieces (byte (0xE0 + n / 4096) :: byte (0x80 + n / 64 % 64)
        :: byte (0x80 + n % 64) :: rest)
      = .char (Char.ofNat n) :: pieces rest := by
  have ha : (byte (0xE0 + n / 4096)).toNat = 0xE0 + n / 4096 :=
    toNat_byte (by omega)
  have hb : isSecond (byte (0xE0 + n / 4096)) (byte (0x80 + n / 64 % 64))
      = true := by
    refine isSecond_byte (by omega) ?_
    simp only [secondRange]
    split
    · omega
    · split
      · omega
      · rw [if_neg (by omega), if_neg (by omega)]
        omega
  rw [pieces.eq_def]
  simp only [ha, hb, tailBits_byte, isTail_byte]
  rw [if_neg (by omega), if_neg (by omega)]
  rw [if_neg (by decide), if_neg (by omega), if_neg (by decide),
    if_pos (by omega)]
  congr 3
  omega

theorem pieces_four {n : Nat} (h₁ : 0x10000 ≤ n) (h₂ : n < 0x110000)
    (rest : Bytes) :
    pieces (byte (0xF0 + n / 262144) :: byte (0x80 + n / 4096 % 64)
        :: byte (0x80 + n / 64 % 64) :: byte (0x80 + n % 64) :: rest)
      = .char (Char.ofNat n) :: pieces rest := by
  have ha : (byte (0xF0 + n / 262144)).toNat = 0xF0 + n / 262144 :=
    toNat_byte (by omega)
  have hb : isSecond (byte (0xF0 + n / 262144))
      (byte (0x80 + n / 4096 % 64)) = true := by
    refine isSecond_byte (by omega) ?_
    simp only [secondRange]
    rw [if_neg (by omega), if_neg (by omega)]
    split
    · omega
    · split
      · omega
      · omega
  rw [pieces.eq_def]
  simp only [ha, hb, tailBits_byte, isTail_byte]
  rw [if_neg (by omega), if_neg (by omega)]
  rw [if_neg (by decide), if_neg (by omega), if_neg (by decide),
    if_neg (by omega), if_neg (by decide)]
  congr 3
  omega

/-- The bytes of a character are read off as that character, whatever
follows. -/
theorem pieces_encodeChar (c : Char) (rest : Bytes) :
    pieces (encodeChar c ++ rest) = .char c :: pieces rest := by
  have hvalid := toNat_valid c
  have hc := Char.ofNat_toNat c
  unfold encodeChar
  dsimp only
  split
  · rename_i h
    rw [List.singleton_append, pieces_one h, hc]
  · split
    · rename_i h₁ h₂
      rw [List.cons_append, List.singleton_append,
        pieces_two (by omega) h₂, hc]
    · split
      · rename_i _ h₁ h₂
        simp only [List.cons_append, List.nil_append]
        rw [pieces_three (by omega) h₂ (by omega), hc]
      · rename_i _ _ h₁
        simp only [List.cons_append, List.nil_append]
        rw [pieces_four (by omega) (by omega), hc]

/-! ## Whole texts -/

theorem pieces_encode (cs : List Char) :
    pieces (encode cs) = cs.map .char := by
  induction cs with
  | nil => rfl
  | cons c rest ih =>
    rw [encode, List.flatMap_cons, pieces_encodeChar, ← encode, ih]
    rfl

/-- Pieces that are all characters join to those characters. -/
theorem join_chars (index : Nat) (cs : List Char) :
    join index (cs.map .char) = .ok cs := by
  induction cs generalizing index with
  | nil => rfl
  | cons c rest ih =>
    simp only [List.map_cons, join, ih]
    rfl

theorem decode_encode (cs : List Char) : decode (encode cs) = .ok cs := by
  rw [decode, pieces_encode, join_chars]

theorem encode_cons (c : Char) (cs : List Char) :
    encode (c :: cs) = encodeChar c ++ encode cs :=
  List.flatMap_cons

theorem encode_append (cs cs' : List Char) :
    encode (cs ++ cs') = encode cs ++ encode cs' :=
  List.flatMap_append

theorem encode_injective : Function.Injective encode := by
  intro cs cs' h
  exact Except.ok.inj ((decode_encode cs).symm.trans
    ((congrArg decode h).trans (decode_encode cs')))

/-- **Written text is read back.** -/
@[simp] theorem toString?_ofString (s : String) :
    toString? (ofString s) = .ok s := by
  rw [toString?, ofString, decode_encode]
  simp [Except.map, String.ofList_toList]

theorem ofString_injective : Function.Injective ofString :=
  encode_injective.comp fun _ _ => String.toList_inj.mp

/-! ## Characters of one byte -/

theorem encodeChar_ascii {c : Char} (h : c.toNat < 0x80) :
    encodeChar c = [byte c.toNat] := by
  rw [encodeChar, if_pos h]

/-- The bytes of a character beyond ASCII are beyond ASCII. -/
theorem le_of_mem_encodeChar {c : Char} (h : 0x80 ≤ c.toNat) {b : UInt8}
    (hb : b ∈ encodeChar c) : 0x80 ≤ b.toNat := by
  have hvalid := toNat_valid c
  -- Every byte is a number from 0x80 on, below 256.
  have high : ∀ {n : Nat}, b = byte n → 0x80 ≤ n → n < 256 → 0x80 ≤ b.toNat :=
    fun hbyte hlow hhigh => by rwa [hbyte, toNat_byte hhigh]
  unfold encodeChar at hb
  dsimp only at hb
  rw [if_neg (by omega)] at hb
  split at hb
  · simp only [List.mem_cons, List.not_mem_nil, or_false] at hb
    rcases hb with hb | hb <;> exact high hb (by omega) (by omega)
  · split at hb
    · simp only [List.mem_cons, List.not_mem_nil, or_false] at hb
      rcases hb with hb | hb | hb <;> exact high hb (by omega) (by omega)
    · simp only [List.mem_cons, List.not_mem_nil, or_false] at hb
      rcases hb with hb | hb | hb | hb <;>
        exact high hb (by omega) (by omega)

theorem encodeChar_ne_nil (c : Char) : encodeChar c ≠ [] := by
  unfold encodeChar
  dsimp only
  split
  · simp
  · split
    · simp
    · split <;> simp

theorem encode_ascii {cs : List Char} (h : ∀ c ∈ cs, c.toNat < 0x80) :
    encode cs = cs.map fun c => byte c.toNat := by
  induction cs with
  | nil => rfl
  | cons c rest ih =>
    rw [List.forall_mem_cons] at h
    rw [encode, List.flatMap_cons, encodeChar_ascii h.1, ← encode, ih h.2]
    rfl

/-! ## Bytes that read as characters

The ranges of the bytes say which number a character has; the numbers left
out by `secondRange` are those with a shorter form, the surrogates, and
those beyond the last character. -/

theorem toNat_ofNat {n : Nat} (h : n.isValidChar) :
    (Char.ofNat n).toNat = n := by
  rw [Char.ofNat, dif_pos h]
  rfl

theorem byte_eq {b : UInt8} {n : Nat} (h : n = b.toNat) : byte n = b := by
  rw [h, byte, UInt8.ofNat_toNat]

theorem isTail_iff {b : UInt8} :
    isTail b = true ↔ 0x80 ≤ b.toNat ∧ b.toNat < 0xC0 := by
  simp [isTail]

/-- A second byte has the range of those inside a character, or a part of
it. -/
theorem isSecond_bounds {a b : UInt8} (h : isSecond a b = true) :
    (0x80 ≤ b.toNat ∧ b.toNat < 0xC0)
      ∧ (a.toNat = 0xE0 → 0xA0 ≤ b.toNat)
      ∧ (a.toNat = 0xED → b.toNat < 0xA0)
      ∧ (a.toNat = 0xF0 → 0x90 ≤ b.toNat)
      ∧ (a.toNat = 0xF4 → b.toNat < 0x90) := by
  unfold isSecond secondRange at h
  split at h
  rename_i low high hrange
  simp only [Bool.and_eq_true, decide_eq_true_eq] at h
  split at hrange
  · grind
  · grind

theorem encodeChar_one {a : UInt8} (h : a.toNat < 0x80) :
    encodeChar (Char.ofNat a.toNat) = [a] := by
  have hn := toNat_ofNat (show a.toNat.isValidChar from .inl (by omega))
  simp only [encodeChar, hn, if_pos h]
  rw [byte_eq rfl]

theorem encodeChar_two {a b : UInt8} (low : 0xC2 ≤ a.toNat)
    (high : a.toNat < 0xE0) (hb : isSecond a b = true) :
    encodeChar (Char.ofNat ((a.toNat - 0xC0) * 64 + tailBits b))
      = [a, b] := by
  obtain ⟨hb, -⟩ := isSecond_bounds hb
  unfold tailBits
  generalize hn : (a.toNat - 0xC0) * 64 + b.toNat % 64 = n
  have hchar := toNat_ofNat (show n.isValidChar from .inl (by omega))
  unfold encodeChar
  rw [hchar, if_neg (by omega), if_pos (by omega), byte_eq (b := a) (by omega),
    byte_eq (b := b) (by omega)]

theorem encodeChar_three {a b c : UInt8} (low : 0xE0 ≤ a.toNat)
    (high : a.toNat < 0xF0) (hb : isSecond a b = true)
    (hc : isTail c = true) :
    encodeChar (Char.ofNat ((a.toNat - 0xE0) * 4096 + tailBits b * 64
      + tailBits c)) = [a, b, c] := by
  obtain ⟨hb, hfirst, hsurrogate, -⟩ := isSecond_bounds hb
  rw [isTail_iff] at hc
  unfold tailBits
  generalize hn : (a.toNat - 0xE0) * 4096 + b.toNat % 64 * 64
    + c.toNat % 64 = n
  have hvalid : n < 0xD800 ∨ (0xDFFF < n ∧ n < 0x110000) := by omega
  unfold encodeChar
  rw [toNat_ofNat hvalid, if_neg (by omega), if_neg (by omega),
    if_pos (by omega), byte_eq (b := a) (by omega),
    byte_eq (b := b) (by omega), byte_eq (b := c) (by omega)]

theorem encodeChar_four {a b c d : UInt8} (low : 0xF0 ≤ a.toNat)
    (high : a.toNat ≤ 0xF4) (hb : isSecond a b = true)
    (hc : isTail c = true) (hd : isTail d = true) :
    encodeChar (Char.ofNat ((a.toNat - 0xF0) * 262144 + tailBits b * 4096
      + tailBits c * 64 + tailBits d)) = [a, b, c, d] := by
  obtain ⟨hb, -, -, hfirst, hlast⟩ := isSecond_bounds hb
  rw [isTail_iff] at hc hd
  unfold tailBits
  generalize hn : (a.toNat - 0xF0) * 262144 + b.toNat % 64 * 4096
    + c.toNat % 64 * 64 + d.toNat % 64 = n
  have hvalid : n < 0xD800 ∨ (0xDFFF < n ∧ n < 0x110000) := by omega
  unfold encodeChar
  rw [toNat_ofNat hvalid, if_neg (by omega), if_neg (by omega),
    if_neg (by omega), byte_eq (b := a) (by omega),
    byte_eq (b := b) (by omega), byte_eq (b := c) (by omega),
    byte_eq (b := d) (by omega)]

theorem encode_step {front rest : Bytes} {c : Char} {cs : List Char}
    (hc : encodeChar c = front)
    (hrest : ∀ {ds : List Char}, pieces rest = ds.map .char →
      encode ds = rest)
    (h : .char c :: pieces rest = cs.map .char) :
    encode cs = front ++ rest := by
  obtain ⟨d, ds, rfl, hd, hds⟩ := List.map_eq_cons_iff.mp h.symm
  obtain rfl : d = c := Piece.char.inj hd
  rw [encode, List.flatMap_cons, hc, ← encode, hrest hds.symm]

theorem ne_chars {p : Piece} (hp : ∀ c, p ≠ .char c) (ps : List Piece)
    (cs : List Char) : p :: ps ≠ cs.map .char := by
  intro h
  obtain ⟨c, _, _, hc, _⟩ := List.map_eq_cons_iff.mp h.symm
  exact hp c hc.symm

/-- Pieces that are all characters were cut from the bytes of those
characters. -/
theorem encode_of_pieces {bytes : Bytes} {cs : List Char}
    (h : pieces bytes = cs.map .char) : encode cs = bytes := by
  fun_induction pieces bytes generalizing cs with
  | case1 =>
    rw [List.map_eq_nil_iff.mp h.symm]
    rfl
  | case2 a rest ha ih => exact encode_step (encodeChar_one ha) ih h
  | case6 a _ ha b rest hb hshort ih =>
    exact encode_step (encodeChar_two (by omega) hshort (by simpa using hb))
      ih h
  | case9 a _ ha b hb hlong c rest hc hshort ih =>
    exact encode_step (encodeChar_three (by omega) hshort (by simpa using hb)
      (by simpa using hc)) ih h
  | case12 a _ ha b hb _ c hc hlong d rest hd ih =>
    exact encode_step (encodeChar_four (by omega) (by omega)
      (by simpa using hb) (by simpa using hc) (by simpa using hd)) ih h
  | case3 | case4 | case5 | case7 | case8 | case10 | case11 =>
    exact absurd h (ne_chars (by simp) _ _)

theorem eq_chars_of_join {index : Nat} {ps : List Piece} {cs : List Char}
    (h : join index ps = .ok cs) : ps = cs.map .char := by
  fun_induction join index ps generalizing cs with
  | case1 =>
    cases h
    rfl
  | case2 index c rest ih =>
    cases hrest : join (index + (encodeChar c).length) rest with
    | error e =>
      rw [hrest] at h
      cases h
    | ok ds =>
      rw [hrest] at h
      obtain rfl : c :: ds = cs := Except.ok.inj h
      rw [List.map_cons, ih hrest]
  | case3 | case4 => cases h

/-- **The bytes that read as a text are the bytes of that text.** -/
theorem toString?_eq_ok_iff {bytes : Bytes} {s : String} :
    toString? bytes = .ok s ↔ bytes = ofString s := by
  constructor
  · intro h
    unfold toString? decode at h
    cases hjoin : join 0 (pieces bytes) with
    | error e =>
      rw [hjoin] at h
      cases h
    | ok cs =>
      rw [hjoin] at h
      obtain rfl : String.ofList cs = s := Except.ok.inj h
      rw [ofString, String.toList_ofList,
        encode_of_pieces (eq_chars_of_join hjoin)]
  · rintro rfl
    exact toString?_ofString s

end ScriptHost.Utf8
