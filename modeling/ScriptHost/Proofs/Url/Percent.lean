/-
ScriptHost.Proofs.Url.Percent — escapes, and the bytes that they stand for.

A reader of escapes goes over bytes from the left. At a percent sign with two
digits behind it, it gives the byte of the digits and goes on behind them; any
other byte stands for itself (`decode_cases`). So bytes stand for themselves
exactly if there is no escape among them (`length_decode_eq_iff`), and to write
some of them as escapes changes nothing about what they all stand for
(`decode_write`).
-/
import ScriptHost.Proofs.Text.Utf8
import ScriptHost.Url.Form

namespace ScriptHost.Percent

/-! ## Digits -/

/-- Is the byte a digit of an escape? -/
def IsDigit (b : UInt8) : Prop := (value? b).isSome = true

instance : DecidablePred IsDigit := fun b =>
  inferInstanceAs (Decidable ((value? b).isSome = true))

theorem IsDigit.ne_sign {a : UInt8} (h : IsDigit a) : a ≠ sign := by
  rintro rfl
  exact absurd h (by decide)

/-- Two digits give a byte. -/
theorem byte?_of_isDigit {a b : UInt8} (ha : IsDigit a) (hb : IsDigit b) :
    byte? a b = some (UInt8.ofNat
      ((value? a).getD 0 * 16 + (value? b).getD 0)) := by
  obtain ⟨high, hhigh⟩ := Option.isSome_iff_exists.mp ha
  obtain ⟨low, hlow⟩ := Option.isSome_iff_exists.mp hb
  simp [byte?, hhigh, hlow]

theorem byte?_isSome_iff {a b : UInt8} :
    (byte? a b).isSome = true ↔ IsDigit a ∧ IsDigit b := by
  unfold byte? IsDigit
  cases value? a <;> cases value? b <;> simp

theorem value?_digit : ∀ n < 16,
    value? (Utf8.byte (digit n).toNat) = some n := by
  decide

theorem toNat_digit : ∀ n < 16, (digit n).toNat < 0x80 := by decide

/-! ## Pieces -/

theorem pieces_plain {a : UInt8} (h : a ≠ sign) (rest : Bytes) :
    pieces (a :: rest) = .plain a :: pieces rest := by
  match rest with
  | [] => rfl
  | [_] => rfl
  | _ :: _ :: _ => rw [pieces, if_neg h]

theorem pieces_escape {a b value : UInt8} (h : byte? a b = some value)
    (rest : Bytes) :
    pieces (sign :: a :: b :: rest) = .escape a b value :: pieces rest := by
  rw [pieces, if_pos rfl, h]

/-- The places of the escapes among pieces, the first of which stands at the
given place. -/
def escapePlaces (i : Nat) : List Piece → List Nat
  | [] => []
  | .plain _ :: rest => escapePlaces (i + 1) rest
  | .escape _ _ _ :: rest => i :: escapePlaces (i + 3) rest

/-! ## What bytes stand for -/

/-- An escape stands at the front. -/
def Escapes (bytes : Bytes) : Prop :=
  ∃ a b rest, bytes = sign :: a :: b :: rest ∧ IsDigit a ∧ IsDigit b

theorem not_escapes_of_ne {a : UInt8} {rest : Bytes} (h : a ≠ sign) :
    ¬ Escapes (a :: rest) :=
  fun ⟨_, _, _, heq, _⟩ => h (List.cons.inj heq).1

theorem decode_escape {a b : UInt8} (ha : IsDigit a) (hb : IsDigit b)
    (rest : Bytes) :
    decode (sign :: a :: b :: rest)
      = UInt8.ofNat ((value? a).getD 0 * 16 + (value? b).getD 0)
        :: decode rest := by
  rw [decode, pieces_escape (byte?_of_isDigit ha hb)]
  rfl

/-- A byte that begins no escape stands for itself. -/
theorem decode_plain {a : UInt8} {rest : Bytes} (h : ¬ Escapes (a :: rest)) :
    decode (a :: rest) = a :: decode rest := by
  by_cases hsign : a = sign
  · subst hsign
    match rest with
    | [] => rfl
    | [_] => rfl
    | x :: y :: tail =>
      have hnone : byte? x y = none := by
        rw [← Option.not_isSome_iff_eq_none, byte?_isSome_iff]
        exact fun hdigits => h ⟨x, y, tail, rfl, hdigits⟩
      rw [decode, pieces, if_pos rfl, hnone]
      rfl
  · rw [decode, pieces_plain hsign]
    rfl

/-- **What a reader does at a byte.** -/
theorem decode_cases (x : UInt8) (bytes : Bytes) :
    (∃ a b rest, x = sign ∧ bytes = a :: b :: rest ∧ IsDigit a ∧ IsDigit b
        ∧ ∃ value, decode (x :: bytes) = value :: decode rest)
      ∨ ¬ Escapes (x :: bytes) ∧ decode (x :: bytes) = x :: decode bytes := by
  by_cases h : Escapes (x :: bytes)
  · obtain ⟨a, b, rest, ⟨⟩, ha, hb⟩ := h
    exact .inl ⟨a, b, rest, rfl, rfl, ha, hb, _, decode_escape ha hb rest⟩
  · exact .inr ⟨h, decode_plain h⟩

/-! ## Two parts -/

/-- What comes next is no digit of an escape that began before. -/
def Fresh (bytes : Bytes) : Prop := ∀ b ∈ bytes.head?, ¬ IsDigit b

/-- In front of such bytes there are no other escapes than alone. -/
theorem Escapes.of_append {x : UInt8} {front bytes : Bytes}
    (fresh : Fresh bytes) (h : Escapes (x :: (front ++ bytes))) :
    Escapes (x :: front) := by
  obtain ⟨a, b, rest, heq, ha, hb⟩ := h
  match front with
  | [] =>
    obtain ⟨-, rfl⟩ := List.cons.inj heq
    exact absurd ha (fresh a rfl)
  | [_] =>
    obtain ⟨-, h⟩ := List.cons.inj heq
    obtain ⟨-, rfl⟩ := List.cons.inj h
    exact absurd hb (fresh b rfl)
  | _ :: _ :: tail =>
    cases heq
    exact ⟨a, b, tail, rfl, ha, hb⟩

/-- **A reader takes two parts one after the other** unless an escape may begin
in the first and end in the second. -/
theorem decode_append {bytes : Bytes} (fresh : Fresh bytes) :
    ∀ front, decode (front ++ bytes) = decode front ++ decode bytes
  | [] => rfl
  | x :: front => by
    rcases decode_cases x front with ⟨a, b, rest, rfl, rfl, ha, hb, -⟩ | ⟨hnot, h⟩
    · simp only [List.cons_append, decode_escape ha hb,
        decode_append fresh rest]
    · rw [h, List.cons_append, decode_plain (mt (.of_append fresh) hnot),
        decode_append fresh front, List.cons_append]

/-! ## Bytes without escapes -/

/-- No percent sign among the bytes has two digits behind it. -/
def NoEscape (bytes : Bytes) : Prop :=
  ∀ a b, [sign, a, b] <:+: bytes → ¬ (IsDigit a ∧ IsDigit b)

theorem noEscape_cons {x : UInt8} {bytes : Bytes} :
    NoEscape (x :: bytes) ↔ ¬ Escapes (x :: bytes) ∧ NoEscape bytes := by
  simp only [NoEscape, List.infix_cons_iff]
  constructor
  · intro h
    refine ⟨?_, fun a b hin => h a b (.inr hin)⟩
    rintro ⟨a, b, rest, heq, hdigits⟩
    exact h a b (.inl ⟨rest, heq.symm⟩) hdigits
  · rintro ⟨hfirst, hrest⟩ a b (⟨rest, heq⟩ | hin) hdigits
    · exact hfirst ⟨a, b, rest, heq.symm, hdigits⟩
    · exact hrest a b hin hdigits

theorem length_decode_le : ∀ bytes, (decode bytes).length ≤ bytes.length
  | [] => Nat.le_refl _
  | x :: bytes => by
    rcases decode_cases x bytes with ⟨a, b, rest, -, rfl, -, -, _, h⟩ | ⟨-, h⟩
    · have := length_decode_le rest
      rw [h]
      simp only [List.length_cons]
      omega
    · rw [h]
      exact Nat.succ_le_succ (length_decode_le bytes)

/-- Bytes without escapes stand for themselves. -/
theorem decode_of_noEscape : ∀ {bytes}, NoEscape bytes → decode bytes = bytes
  | [], _ => rfl
  | x :: bytes, h => by
    obtain ⟨hfirst, hrest⟩ := noEscape_cons.mp h
    rw [decode_plain hfirst, decode_of_noEscape hrest]

/-- With an escape among them, they stand for fewer. -/
theorem noEscape_of_length : ∀ {bytes},
    (decode bytes).length = bytes.length → NoEscape bytes
  | [], _ => fun a b h => by simp at h
  | x :: bytes, hlength => by
    rcases decode_cases x bytes with ⟨a, b, rest, -, rfl, -, -, _, h⟩ | ⟨hnot, h⟩
    · have := length_decode_le rest
      rw [h] at hlength
      simp only [List.length_cons] at hlength
      omega
    · rw [h] at hlength
      exact noEscape_cons.mpr
        ⟨hnot, noEscape_of_length (Nat.succ.inj hlength)⟩

/-! ## Writing escapes -/

/-- An escape as bytes. -/
def escapeBytes (b : UInt8) : Bytes := (escape b).map fun c => Utf8.byte c.toNat

theorem escapeBytes_eq (b : UInt8) : ∃ x y, escapeBytes b = [sign, x, y]
    ∧ IsDigit x ∧ IsDigit y
    ∧ UInt8.ofNat ((value? x).getD 0 * 16 + (value? y).getD 0) = b := by
  have hlt := b.toNat_lt
  have hhigh := value?_digit (b.toNat / 16) (by omega)
  have hlow := value?_digit (b.toNat % 16) (by omega)
  refine ⟨_, _, rfl, ?_, ?_, ?_⟩
  · rw [IsDigit, hhigh]
    rfl
  · rw [IsDigit, hlow]
    rfl
  · rw [hhigh, hlow, Option.getD_some, Option.getD_some,
      show b.toNat / 16 * 16 + b.toNat % 16 = b.toNat by omega,
      UInt8.ofNat_toNat]

/-- The bytes with some of them written as escapes. -/
def write (marked : UInt8 → Bool) (bytes : Bytes) : Bytes :=
  bytes.flatMap fun b => if marked b then escapeBytes b else [b]

section Write

variable {marked : UInt8 → Bool}

theorem write_marked {b : UInt8} (h : marked b = true) (bytes : Bytes) :
    write marked (b :: bytes) = escapeBytes b ++ write marked bytes := by
  rw [write, List.flatMap_cons, if_pos h, write]

theorem write_plain {b : UInt8} (h : marked b = false) (bytes : Bytes) :
    write marked (b :: bytes) = b :: write marked bytes := by
  rw [write, List.flatMap_cons, if_neg (by simp [h]), write]
  rfl

/-- What is a digit at the front was one before. -/
theorem eq_cons_of_write {bytes rest : Bytes} {a : UInt8}
    (h : write marked bytes = a :: rest) (ha : IsDigit a) :
    ∃ tail, bytes = a :: tail ∧ rest = write marked tail := by
  cases bytes with
  | nil => cases h
  | cons b tail =>
    cases hmarked : marked b with
    | true =>
      obtain ⟨x, y, hbytes, -⟩ := escapeBytes_eq b
      rw [write_marked hmarked, hbytes] at h
      exact absurd (List.cons.inj h).1.symm ha.ne_sign
    | false =>
      rw [write_plain hmarked] at h
      obtain ⟨rfl, rfl⟩ := List.cons.inj h
      exact ⟨tail, rfl, rfl⟩

/-- Behind a byte, no escapes come to be. -/
theorem Escapes.of_write {b : UInt8} {bytes : Bytes}
    (h : Escapes (b :: write marked bytes)) : Escapes (b :: bytes) := by
  obtain ⟨x, y, rest, heq, hx, hy⟩ := h
  obtain ⟨rfl, hwritten⟩ := List.cons.inj heq
  obtain ⟨_, rfl, hbehind⟩ := eq_cons_of_write hwritten hx
  obtain ⟨tail, rfl, -⟩ := eq_cons_of_write hbehind.symm hy
  exact ⟨x, y, tail, rfl, hx, hy⟩

/-- **Written escapes change nothing about what bytes stand for**, if neither
the percent sign nor digits are written as escapes. Escapes that were there
before are read along with them. -/
theorem decode_write (hsign : marked sign = false)
    (hdigit : ∀ b, IsDigit b → marked b = false) :
    ∀ bytes, decode (write marked bytes) = decode bytes
  | [] => rfl
  | b :: bytes => by
    rcases decode_cases b bytes with ⟨x, y, rest, rfl, rfl, hx, hy, -⟩ | ⟨hnot, h⟩
    · rw [write_plain hsign, write_plain (hdigit x hx),
        write_plain (hdigit y hy), decode_escape hx hy, decode_escape hx hy,
        decode_write hsign hdigit rest]
    · rw [h, ← decode_write hsign hdigit bytes]
      cases hmarked : marked b with
      | true =>
        obtain ⟨x, y, hbytes, hx, hy, hvalue⟩ := escapeBytes_eq b
        rw [write_marked hmarked, hbytes]
        exact (decode_escape hx hy _).trans (by rw [hvalue]; rfl)
      | false =>
        rw [write_plain hmarked, decode_plain (mt .of_write hnot)]

end Write

end ScriptHost.Percent
