/-
ScriptHost.Proofs.Url.Form — what form data stands for.

Two readers go over form data, each in its own way: the check moves an index
over the text, and the decoder cuts a copy of the text in which spaces stand
for plus signs. `look_cases` says what the check does at a place, and
`checkFrom_eq_ok_iff` that it goes through exactly if two digits follow every
percent sign (`Whole`). `pieces_of_whole` says that the decoder then takes
every percent sign for an escape, so what it gives is what the text stands
for (`meaning`), which `decode_eq_ok_iff` puts together.

Names and values are written as pairs, with an ampersand between two pairs and
an equals sign between name and value. What is written for a name or a value
holds neither of these, so pairs are read back just as they were
(`readPairs_pairsText`).
-/
import Mathlib.Data.List.TakeWhile
import ScriptHost.Proofs.Text.Utf8
import ScriptHost.Proofs.Url.Percent

namespace ScriptHost

namespace Form

open Percent

/-! ## What form data stands for -/

/-- Two digits stand behind the place. -/
def Followed (bytes : Bytes) (i : Nat) : Prop :=
  ∃ a b, bytes[i + 1]? = some a ∧ bytes[i + 2]? = some b
    ∧ IsDigit a ∧ IsDigit b

/-- Two digits stand behind every percent sign. -/
def Whole (bytes : Bytes) : Prop :=
  ∀ i, bytes[i]? = some sign → Followed bytes i

/-- A space in the place of a plus. -/
def spaced (b : UInt8) : UInt8 := if b = 0x2B then 0x20 else b

/-- The bytes that form data stands for: a space for a plus, and the byte of
its digits for an escape. -/
def meaning : Bytes → Bytes
  | [] => []
  | a :: rest =>
    if a = sign then
      match rest with
      | b :: c :: tail =>
        UInt8.ofNat ((value? b).getD 0 * 16 + (value? c).getD 0)
          :: meaning tail
      | _ => []
    else spaced a :: meaning rest

theorem meaning_plain {a : UInt8} (h : a ≠ sign) (rest : Bytes) :
    meaning (a :: rest) = spaced a :: meaning rest := by
  rw [meaning.eq_def]
  exact if_neg h

theorem meaning_sign (a b : UInt8) (rest : Bytes) :
    meaning (sign :: a :: b :: rest)
      = UInt8.ofNat ((value? a).getD 0 * 16 + (value? b).getD 0)
        :: meaning rest := by
  rw [meaning.eq_def]
  exact if_pos rfl

/-- The digits of an escape are no percent signs. -/
theorem Followed.ne_sign {bytes : Bytes} {i : Nat} (h : Followed bytes i) :
    bytes[i + 1]? ≠ some sign ∧ bytes[i + 2]? ≠ some sign := by
  obtain ⟨a, b, ha, hb, hda, hdb⟩ := h
  rw [ha, hb]
  exact ⟨fun h => hda.ne_sign (Option.some.inj h),
    fun h => hdb.ne_sign (Option.some.inj h)⟩

/-- A byte that is no percent sign asks for nothing behind it. -/
theorem whole_plain {a : UInt8} {rest : Bytes} (h : a ≠ sign) :
    Whole (a :: rest) ↔ Whole rest := by
  constructor
  · intro hwhole i hi
    exact hwhole (i + 1) hi
  · intro hwhole i hi
    cases i with
    | zero => exact absurd (Option.some.inj hi) h
    | succ i => exact hwhole i hi

theorem whole_sign {rest : Bytes} :
    Whole (sign :: rest)
      ↔ ∃ a b tail, rest = a :: b :: tail ∧ IsDigit a ∧ IsDigit b
        ∧ Whole tail := by
  constructor
  · intro hwhole
    obtain ⟨a, b, ha, hb, hda, hdb⟩ := hwhole 0 rfl
    match rest, ha, hb with
    | _ :: _ :: tail, rfl, rfl =>
      exact ⟨a, b, tail, rfl, hda, hdb, fun i hi => hwhole (i + 3) hi⟩
  · rintro ⟨a, b, tail, rfl, hda, hdb, hwhole⟩
    have hfollowed : Followed (sign :: a :: b :: tail) 0 :=
      ⟨a, b, rfl, rfl, hda, hdb⟩
    intro i hi
    match i, hi with
    | 0, _ => exact hfollowed
    | 1, hi => exact absurd hi hfollowed.ne_sign.1
    | 2, hi => exact absurd hi hfollowed.ne_sign.2
    | i + 3, hi => exact hwhole i hi

/-! ## The check -/

/-- Behind a place in the text, two bytes can always be asked for, or what is
left. -/
theorem behind?_eq {bytes : Array UInt8} {i : Nat} (h : i < bytes.size) :
    behind? bytes i = some ((bytes.toList.drop (i + 1)).take 2) := by
  unfold behind? slice?
  by_cases hroom : i + 3 ≤ bytes.size
  · rw [if_pos ⟨by omega, hroom⟩, Option.some_or, Array.toList_extract,
      List.extract_eq_take_drop]
    congr 2
    omega
  · rw [if_neg (by omega), Option.none_or, if_pos ⟨by omega, Nat.le_refl _⟩,
      Array.toList_extract, List.extract_eq_take_drop, List.take_of_length_le,
      List.take_of_length_le]
    all_goals
      simp only [List.length_drop, Array.length_toList]
      omega

theorem followed_iff {bytes : Bytes} {i : Nat} :
    Followed bytes i
      ↔ ((bytes.drop (i + 1)).take 2).length = 2
        ∧ ∀ b ∈ (bytes.drop (i + 1)).take 2, IsDigit b := by
  have hfirst : bytes[i + 1]? = (bytes.drop (i + 1))[0]? := by simp
  have hsecond : bytes[i + 2]? = (bytes.drop (i + 1))[1]? := by simp
  rw [Followed, hfirst, hsecond]
  match bytes.drop (i + 1) with
  | [] => simp
  | [_] => simp
  | _ :: _ :: _ => simp

/-- **What the check does at a place.** It goes on behind a byte that is no
percent sign, and behind an escape. It ends at any other percent sign, with
the bytes behind it. -/
theorem look_cases {bytes : Array UInt8} {i : Nat} (h : i < bytes.size) :
    (bytes.toList[i]? ≠ some sign ∧ look bytes i = .ok (i + 1))
      ∨ (bytes.toList[i]? = some sign ∧ Followed bytes.toList i
        ∧ look bytes i = .ok (i + 3))
      ∨ (bytes.toList[i]? = some sign ∧ ¬ Followed bytes.toList i
        ∧ look bytes i
          = .error (.escape ((bytes.toList.drop (i + 1)).take 2))) := by
  have refused : (decide (((bytes.toList.drop (i + 1)).take 2).length ≠ 2)
      || !((bytes.toList.drop (i + 1)).take 2).all
        fun b => (value? b).isSome) = true
      ↔ ¬ Followed bytes.toList i := by
    rw [followed_iff, not_and_or, Bool.or_eq_true, decide_eq_true_eq,
      Bool.not_eq_true', ← Bool.not_eq_true, List.all_eq_true]
    rfl
  unfold look
  rw [Array.getElem?_toList]
  by_cases hsign : bytes[i]? = some sign
  · rw [if_pos hsign, behind?_eq h]
    dsimp only
    by_cases hfollowed : Followed bytes.toList i
    · exact .inr (.inl ⟨hsign, hfollowed,
        if_neg fun h => refused.mp h hfollowed⟩)
    · exact .inr (.inr ⟨hsign, hfollowed, if_pos (refused.mpr hfollowed)⟩)
  · exact .inl ⟨hsign, if_neg hsign⟩

/-- The check never asks for bytes outside of the text. -/
theorem look_ne_outside (bytes : Array UInt8) (i : Nat) :
    look bytes i ≠ .error .outside := by
  rcases Nat.lt_or_ge i bytes.size with h | h
  · rcases look_cases h with ⟨-, h⟩ | ⟨-, -, h⟩ | ⟨-, -, h⟩ <;> simp [h]
  · have hnone : bytes[i]? ≠ some sign := by simp [h]
    simp [look, hnone]

/-- The check goes through from a place on exactly if two digits follow every
percent sign from there on. -/
theorem checkFrom_eq_ok_iff (bytes : Array UInt8) (i : Nat) :
    checkFrom bytes i = .ok ()
      ↔ ∀ j, i ≤ j → bytes.toList[j]? = some sign
        → Followed bytes.toList j := by
  fun_induction checkFrom bytes i with
  | case1 i hi e hlook =>
    refine iff_of_false (by simp) fun hall => ?_
    rcases look_cases hi with ⟨-, h⟩ | ⟨-, -, h⟩ | ⟨hsign, hnot, -⟩
    · simp [h] at hlook
    · simp [h] at hlook
    · exact hnot (hall i (Nat.le_refl i) hsign)
  | case2 i hi j hlook ih =>
    rw [ih]
    constructor
    · intro hall k hk hsign
      rcases look_cases hi with ⟨hnot, h⟩ | ⟨-, hfollowed, h⟩ | ⟨-, -, h⟩
      · -- The place itself holds no percent sign.
        obtain rfl : i + 1 = j := Except.ok.inj (h.symm.trans hlook)
        have hne : k ≠ i := fun heq => hnot (heq ▸ hsign)
        exact hall k (by omega) hsign
      · -- The place begins an escape, and its digits are no percent signs.
        obtain rfl : i + 3 = j := Except.ok.inj (h.symm.trans hlook)
        have hfirst : k ≠ i + 1 := fun heq => hfollowed.ne_sign.1 (heq ▸ hsign)
        have hsecond : k ≠ i + 2 :=
          fun heq => hfollowed.ne_sign.2 (heq ▸ hsign)
        by_cases hk' : k = i
        · exact hk' ▸ hfollowed
        · exact hall k (by omega) hsign
      · rw [h] at hlook
        cases hlook
    · intro hall k hk
      exact hall k (by have := lt_of_look hlook; omega)
  | case3 i hi =>
    refine iff_of_true rfl fun j hj hsign => ?_
    have hlt := (List.getElem?_eq_some_iff.mp hsign).1
    rw [Array.length_toList] at hlt
    omega

theorem check_eq_ok_iff (bytes : Bytes) :
    checkFrom bytes.toArray 0 = .ok () ↔ Whole bytes := by
  rw [checkFrom_eq_ok_iff]
  exact ⟨fun h j => h j (Nat.zero_le j), fun h j _ => h j⟩

/-- A refusal of the check shows the bytes behind a percent sign. -/
theorem checkFrom_error {bytes : Array UInt8} {i : Nat} {e : Refusal}
    (h : checkFrom bytes i = .error e) : ∃ behind, e = .escape behind := by
  fun_induction checkFrom bytes i with
  | case1 i hi e' hlook =>
    obtain rfl := Except.error.inj h
    rcases look_cases hi with ⟨-, h⟩ | ⟨-, -, h⟩ | ⟨-, -, h⟩
    · simp [h] at hlook
    · simp [h] at hlook
    · exact ⟨_, (Except.error.inj (h.symm.trans hlook)).symm⟩
  | case2 i hi j hlook ih => exact ih h
  | case3 => cases h

/-- The places at which the check looks, one after the other. -/
inductive Visited (bytes : Array UInt8) : Nat → Prop
  | start : Visited bytes 0
  | next {i j : Nat} (here : Visited bytes i) (hi : i < bytes.size)
    (goes : look bytes i = .ok j) : Visited bytes j

/-- Unless a place is inside an escape, the check looks at it. -/
theorem visited_or_inside {bytes : Array UInt8} (whole : Whole bytes.toList)
    {i : Nat} (hi : i ≤ bytes.size) :
    Visited bytes i
      ∨ ∃ j, Visited bytes j ∧ j < bytes.size
        ∧ bytes.toList[j]? = some sign ∧ (i = j + 1 ∨ i = j + 2) := by
  induction i with
  | zero => exact .inl .start
  | succ i ih =>
    rcases ih (by omega) with hvisited | ⟨j, hj, hjs, hsign, hi' | hi'⟩
    · have hlt : i < bytes.size := hi
      rcases look_cases hlt with ⟨-, h⟩ | ⟨hsign, -, -⟩ | ⟨hsign, hnot, -⟩
      · exact .inl (hvisited.next hlt h)
      · exact .inr ⟨i, hvisited, hlt, hsign, .inl rfl⟩
      · exact absurd (whole i hsign) hnot
    · exact .inr ⟨j, hj, hjs, hsign, .inr (by omega)⟩
    · rcases look_cases hjs with ⟨hnot, -⟩ | ⟨-, -, h⟩ | ⟨-, hnot, -⟩
      · exact absurd hsign hnot
      · exact .inl (hi' ▸ hj.next hjs h)
      · exact absurd (whole j hsign) hnot

/-- Every percent sign is looked at. -/
theorem visited_of_sign {bytes : Array UInt8} (whole : Whole bytes.toList)
    {i : Nat} (h : bytes.toList[i]? = some sign) : Visited bytes i := by
  have hlt : i < bytes.size := by
    simpa using (List.getElem?_eq_some_iff.mp h).1
  rcases visited_or_inside whole (Nat.le_of_lt hlt) with
    hvisited | ⟨j, -, -, hsign, rfl | rfl⟩
  · exact hvisited
  · exact absurd h (whole j hsign).ne_sign.1
  · exact absurd h (whole j hsign).ne_sign.2

/-! ## The decoder -/

theorem encodeChar_plusAsSpace (c : Char) :
    Utf8.encodeChar (plusAsSpace c) = (Utf8.encodeChar c).map spaced := by
  unfold plusAsSpace
  split
  · rename_i h
    subst h
    decide
  · rename_i hplus
    -- No byte of another character is a plus.
    have hnot : ∀ b ∈ Utf8.encodeChar c, spaced b = b := by
      intro b hb
      refine if_neg ?_
      rintro rfl
      rcases Nat.lt_or_ge c.toNat 0x80 with hlow | hhigh
      · rw [Utf8.encodeChar_ascii hlow, List.mem_singleton] at hb
        have hnat := congrArg UInt8.toNat hb
        rw [Utf8.toNat_byte (by omega)] at hnat
        exact hplus (Char.toNat_inj.mp hnat.symm)
      · exact absurd (Utf8.le_of_mem_encodeChar hhigh hb) (by decide)
    exact ((List.map_congr_left hnot).trans (List.map_id' _)).symm

theorem encode_plusAsSpace (cs : List Char) :
    Utf8.encode (cs.map plusAsSpace) = (Utf8.encode cs).map spaced := by
  rw [Utf8.encode, Utf8.encode, List.flatMap_map, List.map_flatMap]
  simp only [encodeChar_plusAsSpace]

theorem spaced_sign : spaced sign = sign := rfl

/-- Only a plus is changed, and not into a percent sign. -/
theorem spaced_ne_sign {a : UInt8} (h : a ≠ sign) : spaced a ≠ sign := by
  unfold spaced
  split
  · decide
  · exact h

theorem spaced_digit {a : UInt8} (h : IsDigit a) : spaced a = a := by
  refine if_neg ?_
  rintro rfl
  unfold IsDigit at h
  exact absurd h (by decide)

/-- A percent sign stands at a place, counted from the given place of the
first byte. -/
def SignAt (bytes : Bytes) (n i : Nat) : Prop :=
  ∃ k, bytes[k]? = some sign ∧ i = n + k

theorem signAt_cons {a : UInt8} {rest : Bytes} {n i : Nat} :
    SignAt (a :: rest) n i
      ↔ (a = sign ∧ i = n) ∨ SignAt rest (n + 1) i := by
  constructor
  · rintro ⟨_ | k, hsign, rfl⟩
    · exact .inl ⟨Option.some.inj hsign, rfl⟩
    · exact .inr ⟨k, hsign, by omega⟩
  · rintro (⟨rfl, rfl⟩ | ⟨k, hsign, rfl⟩)
    · exact ⟨0, rfl, rfl⟩
    · exact ⟨k + 1, hsign, by omega⟩

/-- **What the decoder gives is what the form data stands for**, and it takes
every percent sign for an escape, if two digits follow each. -/
theorem pieces_of_whole {bytes : Bytes} (whole : Whole bytes) :
    (pieces (bytes.map spaced)).map Piece.value = meaning bytes
      ∧ ∀ n i, i ∈ escapePlaces n (pieces (bytes.map spaced))
        ↔ SignAt bytes n i := by
  fun_induction meaning bytes with
  | case1 => exact ⟨rfl, fun n i => by simp [pieces, escapePlaces, SignAt]⟩
  | case2 b c tail ih =>
    obtain ⟨_, _, _, ⟨⟩, hb, hc, hwhole⟩ := whole_sign.mp whole
    obtain ⟨hvalue, hplaces⟩ := ih hwhole
    have hpieces := pieces_escape (byte?_of_isDigit hb hc) (tail.map spaced)
    have hbne := hb.ne_sign
    have hcne := hc.ne_sign
    simp only [List.map_cons, spaced_sign, spaced_digit hb, spaced_digit hc,
      hpieces]
    refine ⟨by rw [hvalue]; rfl, fun n i => ?_⟩
    simp only [escapePlaces, List.mem_cons, hplaces, signAt_cons, hbne, hcne,
      true_and, false_and, false_or]
  | case3 rest hshort =>
    obtain ⟨b, c, tail, rfl, -⟩ := whole_sign.mp whole
    exact absurd rfl (hshort b c tail)
  | case4 a rest ha ih =>
    obtain ⟨hvalue, hplaces⟩ := ih ((whole_plain ha).mp whole)
    rw [List.map_cons, pieces_plain (spaced_ne_sign ha)]
    refine ⟨by rw [List.map_cons, hvalue]; rfl, fun n i => ?_⟩
    simp only [escapePlaces, hplaces, signAt_cons, ha, false_and, false_or]

/-! ## Whole texts -/

/-- The text with spaces for plus signs, as bytes. -/
theorem ofString_spaced (t : String) :
    Utf8.ofString (String.ofList (t.toList.map plusAsSpace))
      = (Utf8.ofString t).map spaced := by
  rw [Utf8.ofString, String.toList_ofList, encode_plusAsSpace, Utf8.ofString]

/-- Form data with two digits behind every percent sign is the text of its
bytes, if they are one. -/
theorem decode_of_whole {t : String} (whole : Whole (Utf8.ofString t)) :
    decode t = match Utf8.toString? (meaning (Utf8.ofString t)) with
      | .ok s => .ok s
      | .error e => .error (.encoding e) := by
  have hcheck := (check_eq_ok_iff _).mpr whole
  simp only [decode, hcheck, ofString_spaced, Percent.decode,
    (pieces_of_whole whole).1]
  rfl

/-- Other form data is refused, with the bytes behind a percent sign. -/
theorem decode_of_not_whole {t : String}
    (broken : ¬ Whole (Utf8.ofString t)) :
    ∃ behind, decode t = .error (.escape behind) := by
  cases hcheck : checkFrom (Utf8.ofString t).toArray 0 with
  | ok => exact absurd ((check_eq_ok_iff _).mp hcheck) broken
  | error e =>
    obtain ⟨behind, rfl⟩ := checkFrom_error hcheck
    exact ⟨behind, by rw [decode, hcheck]; rfl⟩

/-- **Which form data is read, and as which text.** -/
theorem decode_eq_ok_iff {t s : String} :
    decode t = .ok s ↔ Whole (Utf8.ofString t)
      ∧ meaning (Utf8.ofString t) = Utf8.ofString s := by
  by_cases whole : Whole (Utf8.ofString t)
  · rw [decode_of_whole whole, ← Utf8.toString?_eq_ok_iff]
    cases Utf8.toString? (meaning (Utf8.ofString t)) <;> simp [whole]
  · obtain ⟨behind, hrefused⟩ := decode_of_not_whole whole
    simp [hrefused, whole]

/-- Form data that is not read is refused for an escape or for its bytes. -/
theorem decode_ne_outside (t : String) : decode t ≠ .error .outside := by
  by_cases whole : Whole (Utf8.ofString t)
  · rw [decode_of_whole whole]
    cases Utf8.toString? (meaning (Utf8.ofString t)) <;> simp
  · obtain ⟨behind, hrefused⟩ := decode_of_not_whole whole
    simp [hrefused]

/-! ## Writing -/

/-- Is it a digit of an escape in upper case? -/
def IsUpperDigit (c : Char) : Prop :=
  c.isDigit = true ∨ ('A' ≤ c ∧ c ≤ 'F')

/-- Text of letters, digits, the marks that stand for themselves, pluses and
escapes in upper case. -/
inductive Written : List Char → Prop
  | nil : Written []
  | plain {c : Char} {rest : List Char}
    (hc : c.isAlphanum = true ∨ c ∈ ['*', '-', '.', '_', '+'])
    (hrest : Written rest) : Written (c :: rest)
  | escape {a b : Char} {rest : List Char} (ha : IsUpperDigit a)
    (hb : IsUpperDigit b) (hrest : Written rest) :
    Written ('%' :: a :: b :: rest)

theorem isUpperDigit_digit : ∀ n < 16, IsUpperDigit (Percent.digit n) := by
  unfold IsUpperDigit
  decide

/-- What is written for a byte: itself, a plus or an escape. -/
theorem encodeByte_cases (b : UInt8) :
    (b.toNat < 0x80 ∧ b ≠ sign ∧ b ≠ 0x2B
        ∧ ((Char.ofNat b.toNat).isAlphanum = true
          ∨ Char.ofNat b.toNat ∈ ['*', '-', '.', '_', '+'])
        ∧ encodeByte b = [Char.ofNat b.toNat])
      ∨ (b = 0x20 ∧ encodeByte b = ['+'])
      ∨ encodeByte b
        = ['%', Percent.digit (b.toNat / 16),
          Percent.digit (b.toNat % 16)] := by
  unfold encodeByte
  by_cases hplain : isPlain b = true
  · refine .inl ⟨?_, ?_, ?_, ?_, if_pos hplain⟩
    · simp only [isPlain, Bool.and_eq_true, decide_eq_true_eq] at hplain
      exact hplain.1
    · rintro rfl
      exact absurd hplain (by decide)
    · rintro rfl
      exact absurd hplain (by decide)
    · simp only [isPlain, Bool.and_eq_true, Bool.or_eq_true,
        decide_eq_true_eq] at hplain
      obtain ⟨-, (((h | h) | h) | h) | h⟩ := hplain
      · exact .inl h
      all_goals
        rw [h]
        exact .inr (by decide)
  · rw [if_neg hplain]
    by_cases hspace : b = 0x20
    · exact .inr (.inl ⟨hspace, if_pos hspace⟩)
    · exact .inr (.inr (if_neg hspace))

theorem written_encodeByte (b : UInt8) {rest : List Char}
    (h : Written rest) : Written (encodeByte b ++ rest) := by
  have hlt := b.toNat_lt
  rcases encodeByte_cases b with ⟨-, -, -, hc, hb⟩ | ⟨-, hb⟩ | hb
  · rw [hb]
    exact .plain hc h
  · rw [hb]
    exact .plain (.inr (by decide)) h
  · rw [hb]
    exact .escape (isUpperDigit_digit _ (by omega))
      (isUpperDigit_digit _ (by omega)) h

/-- **Only letters, digits, the four marks, pluses and escapes in upper case
are written.** -/
theorem written_encode (s : String) : Written (encode s).toList := by
  rw [encode, String.toList_ofList]
  induction Utf8.ofString s with
  | nil => exact .nil
  | cons b rest ih => exact written_encodeByte b ih

/-- Only ASCII is written. -/
theorem ascii_encodeByte (b : UInt8) : ∀ c ∈ encodeByte b, c.toNat < 0x80 := by
  have hlt := b.toNat_lt
  rcases encodeByte_cases b with ⟨hascii, -, -, -, hb⟩ | ⟨-, hb⟩ | hb
  · rw [hb, List.forall_mem_singleton,
      Utf8.toNat_ofNat (.inl (Nat.lt_trans hascii (by decide)))]
    exact hascii
  · rw [hb, List.forall_mem_singleton]
    decide
  · rw [hb]
    simp only [List.forall_mem_cons]
    exact ⟨by decide, toNat_digit _ (by omega), toNat_digit _ (by omega),
      by simp⟩

/-- What is written for a byte stands for this byte. -/
theorem meaning_encodeByte (b : UInt8) {rest : Bytes} (whole : Whole rest) :
    Whole ((encodeByte b).map (fun c => Utf8.byte c.toNat) ++ rest)
      ∧ meaning ((encodeByte b).map (fun c => Utf8.byte c.toNat) ++ rest)
        = b :: meaning rest := by
  rcases encodeByte_cases b with ⟨hascii, hsign, hplus, -, hb⟩ | ⟨rfl, hb⟩ | hb
  · have hbyte : Utf8.byte (Char.ofNat b.toNat).toNat = b :=
      Utf8.byte_eq (Utf8.toNat_ofNat (.inl (Nat.lt_trans hascii (by decide))))
    simp only [hb, List.map_cons, List.map_nil, hbyte, List.cons_append,
      List.nil_append]
    exact ⟨(whole_plain hsign).mpr whole, by
      rw [meaning_plain hsign, spaced, if_neg hplus]⟩
  · rw [hb]
    exact ⟨(whole_plain (by decide)).mpr whole, meaning_plain (by decide) rest⟩
  · obtain ⟨x, y, hbytes, hx, hy, hvalue⟩ := escapeBytes_eq b
    rw [hb, ← escape, ← escapeBytes, hbytes]
    exact ⟨whole_sign.mpr ⟨x, y, rest, rfl, hx, hy, whole⟩,
      (meaning_sign x y rest).trans (by rw [hvalue])⟩

/-- What is written for bytes stands for these bytes. -/
theorem meaning_encoded (bytes : Bytes) :
    Whole ((bytes.flatMap encodeByte).map fun c => Utf8.byte c.toNat)
      ∧ meaning ((bytes.flatMap encodeByte).map fun c => Utf8.byte c.toNat)
        = bytes := by
  induction bytes with
  | nil => exact ⟨fun i hi => by simp at hi, rfl⟩
  | cons b rest ih =>
    rw [List.flatMap_cons, List.map_append]
    obtain ⟨hwhole, hmeaning⟩ := meaning_encodeByte b ih.1
    exact ⟨hwhole, by rw [hmeaning, ih.2]⟩

/-- **What is written for a text is read as this text.** -/
theorem decode_encode (s : String) : decode (encode s) = .ok s := by
  have hascii : ∀ c ∈ (Utf8.ofString s).flatMap encodeByte,
      c.toNat < 0x80 := by
    intro c hc
    obtain ⟨b, -, hb⟩ := List.mem_flatMap.mp hc
    exact ascii_encodeByte b c hb
  rw [decode_eq_ok_iff, encode, Utf8.ofString, String.toList_ofList,
    Utf8.encode_ascii hascii]
  exact meaning_encoded _

/-! ## Names and values -/

/-- A name and a value as form data. -/
def pairText (pair : String × String) : List Char :=
  (encode pair.1).toList ++ '=' :: (encode pair.2).toList

/-- Pairs as form data. -/
def pairsText (pairs : List (String × String)) : List Char :=
  ['&'].intercalate (pairs.map pairText)

/-- Reads a name up to the first equals sign, and the value behind that. -/
def readPair (cs : List Char) : Except Refusal (String × String) := do
  let name ← decode (String.ofList (cs.takeWhile (· ≠ '=')))
  let value ← decode (String.ofList ((cs.dropWhile (· ≠ '=')).drop 1))
  pure (name, value)

/-- Reads pairs. Between two ampersands there may be nothing. -/
def readPairs (cs : List Char) : Except Refusal (List (String × String)) :=
  ((cs.splitOn '&').filter (!·.isEmpty)).mapM readPair

/-- The marks that have a meaning in a query, or end it. -/
def marks : List Char := ['&', '=', '#']

/-- None of them is written for a name or a value. -/
theorem Written.not_mem {cs : List Char} (h : Written cs) {d : Char}
    (hd : d ∈ marks) : d ∉ cs := by
  obtain ⟨notPlain, notDigit, notSign⟩ :
      ¬ (d.isAlphanum = true ∨ d ∈ ['*', '-', '.', '_', '+'])
        ∧ ¬ IsUpperDigit d ∧ d ≠ '%' := by
    unfold IsUpperDigit
    simp only [marks, List.mem_cons, List.not_mem_nil, or_false] at hd
    rcases hd with rfl | rfl | rfl <;> decide
  induction h with
  | nil => exact List.not_mem_nil
  | plain hc _ ih =>
    refine List.not_mem_cons_of_ne_of_not_mem ?_ ih
    rintro rfl
    exact notPlain hc
  | escape ha hb _ ih =>
    refine List.not_mem_cons_of_ne_of_not_mem notSign ?_
    refine List.not_mem_cons_of_ne_of_not_mem ?_ ?_
    · rintro rfl
      exact notDigit ha
    · refine List.not_mem_cons_of_ne_of_not_mem ?_ ih
      rintro rfl
      exact notDigit hb

theorem mark_not_mem_encode {d : Char} (hd : d ∈ marks) (s : String) :
    d ∉ (encode s).toList :=
  (written_encode s).not_mem hd

theorem ofList_pairText (pair : String × String) :
    String.ofList (pairText pair) = encode pair.1 ++ "=" ++ encode pair.2 := by
  rw [← String.toList_inj, String.toList_ofList, pairText]
  simp only [String.toList_append, List.append_assoc]
  rfl

theorem ofList_pairsText_cons (pair next : String × String)
    (pairs : List (String × String)) :
    String.ofList (pairsText (pair :: next :: pairs))
      = String.ofList (pairText pair) ++ "&"
        ++ String.ofList (pairsText (next :: pairs)) := by
  rw [pairsText, List.map_cons, List.map_cons, List.intercalate_cons_cons,
    String.ofList_append, String.ofList_append, ← List.map_cons, ← pairsText]

theorem readPair_pairText (pair : String × String) :
    readPair (pairText pair) = .ok pair := by
  have hname : ∀ c ∈ (encode pair.1).toList, decide (c ≠ '=') = true := by
    intro c hc
    refine decide_eq_true ?_
    rintro rfl
    exact mark_not_mem_encode (by decide) pair.1 hc
  have htake : (pairText pair).takeWhile (· ≠ '=') = (encode pair.1).toList := by
    rw [pairText, List.takeWhile_append_of_pos hname]
    simp
  have hdrop : (pairText pair).dropWhile (· ≠ '=')
      = '=' :: (encode pair.2).toList := by
    rw [pairText, List.dropWhile_append_of_pos hname]
    simp
  rw [readPair, htake, hdrop, List.drop_one, List.tail_cons, String.ofList_toList,
    String.ofList_toList, decode_encode, decode_encode]
  rfl

theorem mark_not_mem_pairText {d : Char} (hd : d ∈ marks) (hne : d ≠ '=')
    (pair : String × String) : d ∉ pairText pair := by
  rw [pairText, List.mem_append, List.mem_cons, not_or, not_or]
  exact ⟨mark_not_mem_encode hd _, hne, mark_not_mem_encode hd _⟩

/-- **Pairs are read back.** -/
theorem readPairs_pairsText (pairs : List (String × String)) :
    readPairs (pairsText pairs) = .ok pairs := by
  have hsplit : ((pairsText pairs).splitOn '&').filter (!·.isEmpty)
      = pairs.map pairText := by
    cases pairs with
    | nil => rfl
    | cons pair pairs =>
      rw [pairsText, List.splitOn_intercalate _ ?_ (by simp)]
      · exact List.filter_eq_self.mpr (List.forall_mem_map.mpr fun p _ => by
          simp [pairText])
      · exact List.forall_mem_map.mpr fun p _ =>
          mark_not_mem_pairText (by decide) (by decide) p
  rw [readPairs, hsplit]
  clear hsplit
  induction pairs with
  | nil => rfl
  | cons pair pairs ih =>
    rw [List.map_cons, List.mapM_cons, readPair_pairText, ih]
    rfl

/-- A query does not end before all pairs are read. -/
theorem hash_not_mem_pairsText (pairs : List (String × String)) :
    '#' ∉ pairsText pairs := by
  have hpair (pair : String × String) : '#' ∉ pairText pair :=
    mark_not_mem_pairText (by decide) (by decide) pair
  induction pairs with
  | nil => exact List.not_mem_nil
  | cons pair pairs ih =>
    cases pairs with
    | nil => simpa [pairsText] using hpair pair
    | cons next pairs =>
      rw [pairsText, List.map_cons, List.map_cons, List.intercalate_cons_cons,
        ← List.map_cons, ← pairsText]
      simp [hpair, ih]

end Form

end ScriptHost
