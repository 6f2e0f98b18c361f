/-
ScriptHost.Proofs.Url.Provisioning — which labels survive in an address that
hands a secret to an authenticator.

A label is written as a path: its characters are escaped as far as a path asks
for it, and that changes nothing about the bytes that the text stands for
(`decoded_pathChars`). Everything else that happens to the label takes bytes
away from it, and none of it adds any: characters that an address never
contains, a slash at the front, segments of dots, and escapes that the label
already had, which are read along with those that were written. So by counting
bytes, the path is read as the label exactly if none of this happens
(`survives_iff`).
-/
import Mathlib.Data.List.Basic
import Mathlib.Data.List.Flatten
import ScriptHost.Proofs.Url.Form
import ScriptHost.Url.Provisioning

namespace ScriptHost.Url

open Percent

/-! ## What a text stands for -/

/-- The bytes that a text stands for when its escapes are read. -/
def decoded (cs : List Char) : Bytes := Percent.decode (Utf8.encode cs)

/-- A byte that a path has as an escape. -/
def isEscapedByte (b : UInt8) : Bool := isEscapedInPath (Char.ofNat b.toNat)

/-- The bytes of a character are escaped as it is. -/
theorem isEscapedByte_of_mem {c : Char} {b : UInt8}
    (h : b ∈ Utf8.encodeChar c) : isEscapedByte b = isEscapedInPath c := by
  rcases Nat.lt_or_ge c.toNat 0x80 with hlow | hhigh
  · rw [Utf8.encodeChar_ascii hlow, List.mem_singleton] at h
    rw [isEscapedByte, h, Utf8.toNat_byte (by omega), Char.ofNat_toNat]
  · have hb := Utf8.le_of_mem_encodeChar hhigh h
    have hlt := b.toNat_lt
    have hchar : (Char.ofNat b.toNat).toNat = b.toNat :=
      Utf8.toNat_ofNat (.inl (by omega))
    have marked {c : Char} (hc : 0x80 ≤ c.toNat) :
        isEscapedInPath c = true := by
      simp [isEscapedInPath, show 0x7E < c.toNat by omega]
    rw [isEscapedByte, marked (by omega), marked hhigh]

theorem encode_escapes (bytes : Bytes) :
    Utf8.encode (bytes.flatMap escape) = bytes.flatMap escapeBytes := by
  have hascii (b : UInt8) : ∀ c ∈ escape b, c.toNat < 0x80 := by
    have hlt := b.toNat_lt
    simp only [escape, List.forall_mem_cons]
    exact ⟨by decide, toNat_digit _ (by omega), toNat_digit _ (by omega),
      by simp⟩
  rw [Utf8.encode_ascii fun c hc => ?_, List.map_flatMap]
  · rfl
  · obtain ⟨b, -, hb⟩ := List.mem_flatMap.mp hc
    exact hascii b c hb

theorem encode_pathChar (c : Char) :
    Utf8.encode (pathChars c) = write isEscapedByte (Utf8.encodeChar c) := by
  have hsame (b : UInt8) (hb : b ∈ Utf8.encodeChar c) :
      (if isEscapedByte b then escapeBytes b else [b])
        = if isEscapedInPath c then escapeBytes b else [b] := by
    rw [isEscapedByte_of_mem hb]
  rw [write, List.flatMap_congr hsame, pathChars]
  cases isEscapedInPath c with
  | true => simp only [if_true, encode_escapes]
  | false => simp [Utf8.encode]

theorem encode_pathChars (cs : List Char) :
    Utf8.encode (cs.flatMap pathChars)
      = write isEscapedByte (Utf8.encode cs) := by
  induction cs with
  | nil => rfl
  | cons c cs ih =>
    rw [List.flatMap_cons, Utf8.encode_append, encode_pathChar, ih,
      Utf8.encode_cons]
    exact List.flatMap_append.symm

theorem isEscapedByte_of_isDigit (b : UInt8) (h : IsDigit b) :
    isEscapedByte b = false := by
  have hall : ∀ n < 256, IsDigit (UInt8.ofNat n) →
      isEscapedByte (UInt8.ofNat n) = false := by
    decide +kernel
  have := hall b.toNat b.toNat_lt
  rw [UInt8.ofNat_toNat] at this
  exact this h

/-- **As a path, a text stands for the same bytes.** -/
theorem decoded_pathChars (cs : List Char) :
    decoded (cs.flatMap pathChars) = decoded cs := by
  rw [decoded, encode_pathChars,
    decode_write (by decide) isEscapedByte_of_isDigit, decoded]

/-! ## Joined segments -/

/-- Segments, each with a slash in front of it. -/
def joined (ss : List (List Char)) : List Char := ss.flatMap ('/' :: ·)

/-- The number of bytes that segments stand for, with a slash in front of
each. -/
def weight : List (List Char) → Nat
  | [] => 0
  | s :: ss => (decoded s).length + 1 + weight ss

theorem joined_cons (s : List Char) (ss : List (List Char)) :
    joined (s :: ss) = '/' :: (s ++ joined ss) :=
  List.flatMap_cons

theorem weight_append (ss ss' : List (List Char)) :
    weight (ss ++ ss') = weight ss + weight ss' := by
  induction ss with
  | nil => exact (Nat.zero_add _).symm
  | cons s ss ih =>
    rw [List.cons_append, weight, ih, weight]
    omega

theorem weight_reverse (ss : List (List Char)) :
    weight ss.reverse = weight ss := by
  induction ss with
  | nil => rfl
  | cons s ss ih =>
    rw [List.reverse_cons, weight_append, ih, weight, weight, weight,
      Nat.add_zero, Nat.add_comm]

/-- A slash stands for itself. -/
theorem decoded_slash (cs : List Char) :
    decoded ('/' :: cs) = 0x2F :: decoded cs := by
  exact decode_plain (not_escapes_of_ne (by decide))

theorem fresh_joined (ss : List (List Char)) :
    Fresh (Utf8.encode (joined ss)) := by
  cases ss with
  | nil => exact fun b hb => absurd hb (by simp [joined, Utf8.encode])
  | cons s ss =>
    rw [joined_cons, Utf8.encode_cons]
    rintro _ ⟨⟩
    decide

theorem length_decoded_joined (ss : List (List Char)) :
    (decoded (joined ss)).length = weight ss := by
  induction ss with
  | nil => rfl
  | cons s ss ih =>
    rw [joined_cons, decoded_slash, List.length_cons, decoded,
      Utf8.encode_append, decode_append (fresh_joined ss), List.length_append,
      ← decoded, ← decoded, ih, weight]
    omega

theorem joined_eq_intercalate {ss : List (List Char)} (h : ss ≠ []) :
    joined ss = '/' :: ['/'].intercalate ss := by
  induction ss with
  | nil => exact absurd rfl h
  | cons s ss ih =>
    cases ss with
    | nil => simp [joined]
    | cons s' ss =>
      rw [joined_cons, ih (by simp), List.intercalate_cons_cons]
      simp

/-- The segments of a text, joined again. -/
theorem joined_segments (cs : List Char) :
    joined (segments cs) = '/' :: cs := by
  rw [segments, joined_eq_intercalate (List.splitOn_ne_nil _ _),
    List.intercalate_splitOn]

theorem joined_map_pathChars (ss : List (List Char)) :
    joined (ss.map (·.flatMap pathChars)) = (joined ss).flatMap pathChars := by
  induction ss with
  | nil => rfl
  | cons s ss ih =>
    rw [List.map_cons, joined_cons, ih, joined_cons, List.flatMap_cons,
      List.flatMap_append]
    rfl

/-! ## Segments of dots -/

/-- Does the segment mean a directory, itself or the one above? -/
def isDots (segment : List Char) : Bool :=
  isDoubleDot segment || isSingleDot segment

/-- They stand for one or two dots. -/
theorem decoded_dots {s : List Char} (h : isDots s = true) :
    decoded s = Utf8.encode ['.'] ∨ decoded s = Utf8.encode ['.', '.'] := by
  rw [isDots, Bool.or_eq_true, or_comm] at h
  refine h.imp (fun hsingle => ?_) fun hdouble => ?_
  · have hall : ∀ s ∈ dotForms, decoded s = Utf8.encode ['.'] := by decide
    exact hall s (List.contains_iff_mem.mp hsingle)
  · have hall : ∀ a ∈ dotForms, ∀ b ∈ dotForms,
        decoded (a ++ b) = Utf8.encode ['.', '.'] := by
      decide
    obtain ⟨a, ha, b, hb, rfl⟩ : ∃ a ∈ dotForms, ∃ b ∈ dotForms, s = a ++ b := by
      simpa [isDoubleDot, List.any_eq_true] using hdouble
    exact hall a ha b hb

theorem weight_up_le (done : List (List Char)) :
    weight (up done) ≤ weight done := by
  cases done with
  | nil => exact Nat.le_refl _
  | cons s done =>
    rw [up]
    split
    · exact Nat.le_refl _
    · rw [weight]
      omega

theorem mem_of_mem_up (done : List (List Char)) : ∀ s ∈ up done, s ∈ done := by
  cases done with
  | nil => exact fun _ hs => hs
  | cons s done =>
    rw [up]
    split
    · exact fun _ hs => hs
    · exact fun _ hs => List.mem_cons_of_mem _ hs

theorem resolve_plain {s : List Char} (h : isDots s = false)
    (done rest : List (List Char)) :
    resolve done (s :: rest) = resolve (s :: done) rest := by
  obtain ⟨hdouble, hsingle⟩ := Bool.or_eq_false_iff.mp h
  rw [resolve, if_neg (by simp [hdouble]), if_neg (by simp [hsingle])]

/-- In the place of a segment of dots there is none, or an empty one, and the
one in front of it may be gone. -/
theorem resolve_dots {s : List Char} (h : isDots s = true)
    (done rest : List (List Char)) :
    ∃ done', resolve done (s :: rest) = resolve done' rest
      ∧ weight done' ≤ weight done + 1
      ∧ ∀ s' ∈ done', s' = [] ∨ s' ∈ done := by
  -- Behind the last segment an empty one is left.
  have left (ss : List (List Char)) (hweight : weight ss ≤ weight done)
      (hmem : ∀ s' ∈ ss, s' ∈ done) :
      let done' := if rest.isEmpty then [] :: ss else ss
      weight done' ≤ weight done + 1 ∧ ∀ s' ∈ done', s' = [] ∨ s' ∈ done := by
    dsimp only
    split
    · rw [weight, List.forall_mem_cons]
      exact ⟨by simp only [show (decoded []).length = 0 from rfl]; omega,
        .inl rfl, fun s' hs' => .inr (hmem s' hs')⟩
    · exact ⟨by omega, fun s' hs' => .inr (hmem s' hs')⟩
  rw [resolve]
  dsimp only
  by_cases hdouble : isDoubleDot s = true
  · rw [if_pos hdouble]
    exact ⟨_, rfl, left _ (weight_up_le done) (mem_of_mem_up done)⟩
  · rw [if_neg hdouble, if_pos (by simpa [isDots, hdouble] using h)]
    exact ⟨_, rfl, left _ (Nat.le_refl _) fun _ hs' => hs'⟩

/-- Segments without dots stay as they are. -/
theorem resolve_of_no_dots {ss : List (List Char)}
    (h : ∀ s ∈ ss, isDots s = false) (done : List (List Char)) :
    resolve done ss = done.reverse ++ ss := by
  induction ss generalizing done with
  | nil => rw [resolve, List.append_nil]
  | cons s ss ih =>
    obtain ⟨hs, hss⟩ := List.forall_mem_cons.mp h
    rw [resolve_plain hs, ih hss, List.reverse_cons, List.append_assoc]
    rfl

/-- **Every segment of dots takes bytes away.** -/
theorem weight_resolve_le (done ss : List (List Char)) :
    weight (resolve done ss) + ss.countP isDots ≤ weight done + weight ss := by
  induction ss generalizing done with
  | nil =>
    rw [resolve, weight_reverse]
    exact Nat.le_refl _
  | cons s ss ih =>
    rw [weight]
    cases hs : isDots s with
    | true =>
      obtain ⟨done', hresolve, hle, -⟩ := resolve_dots hs done ss
      have hlength : 1 ≤ (decoded s).length := by
        rcases decoded_dots hs with h | h <;> rw [h] <;> decide
      have := ih done'
      rw [hresolve, List.countP_cons_of_pos hs]
      omega
    | false =>
      have := ih (s :: done)
      rw [weight] at this
      rw [resolve_plain hs, List.countP_cons_of_neg (by simp [hs])]
      omega

/-- A segment that is left was there before, or is empty. -/
theorem mem_resolve {done ss : List (List Char)} {s : List Char}
    (h : s ∈ resolve done ss) : s = [] ∨ s ∈ done ∨ s ∈ ss := by
  induction ss generalizing done with
  | nil => exact .inr (.inl (List.mem_reverse.mp h))
  | cons s' ss ih =>
    cases hs : isDots s' with
    | true =>
      obtain ⟨done', hresolve, -, hmem⟩ := resolve_dots hs done ss
      rw [hresolve] at h
      rcases ih h with rfl | h | h
      · exact .inl rfl
      · exact (hmem s h).imp_right .inl
      · exact .inr (.inr (List.mem_cons_of_mem _ h))
    | false =>
      rw [resolve_plain hs] at h
      rcases ih h with rfl | h | h
      · exact .inl rfl
      · rcases List.mem_cons.mp h with rfl | h
        · exact .inr (.inr List.mem_cons_self)
        · exact .inr (.inl h)
      · exact .inr (.inr (List.mem_cons_of_mem _ h))

/-! ## Labels -/

/-- A label that is read from its address as it was. -/
structure Survives (label : List Char) : Prop where
  /-- It begins, and not with a mark that a path does not begin with. -/
  first : ∃ c ∈ label.head?, c ∉ ['/', '?', '#']
  /-- It has no characters that an address never contains. -/
  kept : ∀ c ∈ label, isDropped c = false
  /-- None of its segments means a directory. -/
  segments : ['.'] ∉ Url.segments label ∧ ['.', '.'] ∉ Url.segments label
  /-- It has no escapes of its own. -/
  noEscape : NoEscape (Utf8.encode label)

/-- The segments of a text, as they stand in a path. -/
def pathSegments (cs : List Char) : List (List Char) :=
  (segments cs).map (·.flatMap pathChars)

/-- What of a label is cut into segments, if there is anything. -/
theorem labelPath_cases (label : String) :
    labelPath label = []
      ∨ ∃ body, body.Sublist label.toList
        ∧ labelPath label = joined (resolve [] (pathSegments body))
        ∧ (body = label.toList → (∃ c ∈ label.toList.head?, c ∉ ['/', '?', '#'])
          ∧ ∀ c ∈ label.toList, isDropped c = false) := by
  have hkept : (label.toList.filter fun c => !isDropped c).Sublist label.toList :=
    List.filter_sublist
  have hall (h : (label.toList.filter fun c => !isDropped c).length
      = label.toList.length) : ∀ c ∈ label.toList, isDropped c = false := by
    simpa using List.length_filter_eq_length_iff.mp h
  rw [labelPath]
  cases hcs : label.toList.filter fun c => !isDropped c with
  | nil => exact .inl rfl
  | cons c rest =>
    rw [hcs] at hkept hall
    dsimp only
    by_cases hmark : c = '?' ∨ c = '#'
    · exact .inl (if_pos hmark)
    · rw [if_neg hmark]
      refine .inr ?_
      by_cases hslash : c = '/'
      · rw [if_pos hslash]
        refine ⟨rest, (List.sublist_cons_self c rest).trans hkept, rfl,
          fun h => ?_⟩
        have := hkept.length_le
        rw [h, List.length_cons] at this
        omega
      · rw [if_neg hslash]
        refine ⟨c :: rest, hkept, rfl, fun h => ⟨⟨c, by rw [← h]; rfl, ?_⟩,
          hall (by rw [h])⟩⟩
        simpa [hslash] using not_or.mp hmark

theorem joined_pathSegments (cs : List Char) :
    joined (pathSegments cs) = '/' :: cs.flatMap pathChars := by
  rw [pathSegments, joined_map_pathChars, joined_segments]
  rfl

theorem weight_pathSegments (cs : List Char) :
    weight (pathSegments cs) = (decoded cs).length + 1 := by
  rw [← length_decoded_joined, joined_pathSegments, decoded_slash,
    decoded_pathChars, List.length_cons]

theorem noEscape_segment {cs s : List Char} (h : NoEscape (Utf8.encode cs))
    (hs : s ∈ segments cs) : NoEscape (Utf8.encode s) := by
  obtain ⟨front, back, hsplit⟩ := List.append_of_mem hs
  have hwhole : NoEscape (Utf8.encode ('/' :: cs)) :=
    noEscape_cons.mpr ⟨not_escapes_of_ne (by decide), h⟩
  have hjoined : '/' :: cs = joined front ++ '/' :: (s ++ joined back) := by
    rw [← joined_segments, hsplit, joined, List.flatMap_append, ← joined,
      ← joined, joined_cons]
  refine fun a b hin => hwhole a b (hin.trans ?_)
  rw [hjoined, Utf8.encode_append, Utf8.encode_cons, Utf8.encode_append]
  exact ⟨Utf8.encode (joined front) ++ Utf8.encodeChar '/',
    Utf8.encode (joined back), by simp⟩

/-- Without escapes, a segment of dots is written as one. -/
theorem pathSegments_no_dots_iff {cs : List Char}
    (h : NoEscape (Utf8.encode cs)) :
    (∀ s ∈ pathSegments cs, isDots s = false)
      ↔ ['.'] ∉ segments cs ∧ ['.', '.'] ∉ segments cs := by
  rw [pathSegments, List.forall_mem_map]
  constructor
  · exact fun hall => ⟨fun hs => absurd (hall _ hs) (by decide),
      fun hs => absurd (hall _ hs) (by decide)⟩
  · rintro ⟨hsingle, hdouble⟩ s hs
    by_contra hdots
    have hbytes := decoded_dots (Bool.not_eq_false _ ▸ hdots)
    rw [decoded_pathChars, decoded,
      decode_of_noEscape (noEscape_segment h hs)] at hbytes
    rcases hbytes with hbytes | hbytes
    · exact hsingle (Utf8.encode_injective hbytes ▸ hs)
    · exact hdouble (Utf8.encode_injective hbytes ▸ hs)

theorem Survives.labelPath_eq {label : String} (h : Survives label.toList) :
    labelPath label = '/' :: label.toList.flatMap pathChars := by
  have hkept : (label.toList.filter fun c => !isDropped c) = label.toList :=
    List.filter_eq_self.mpr (by simpa using h.kept)
  have hdots := (pathSegments_no_dots_iff h.noEscape).mpr h.segments
  obtain ⟨c, hc, hmark⟩ := h.first
  simp only [List.mem_cons, List.not_mem_nil, or_false, not_or] at hmark
  rw [labelPath, hkept, ← joined_pathSegments]
  generalize label.toList = cs at *
  cases cs with
  | nil => cases hc
  | cons c' rest =>
    obtain rfl := Option.some.inj hc
    dsimp only
    rw [if_neg (by simp [hmark]), if_neg hmark.1]
    exact congrArg joined (resolve_of_no_dots hdots [])

/-- **Which labels are read from their addresses.** -/
theorem survives_iff (label : String) :
    Survives label.toList
      ↔ ∃ p, labelPath label = '/' :: p ∧ decoded p = Utf8.ofString label := by
  constructor
  · intro h
    exact ⟨_, h.labelPath_eq, by
      rw [decoded_pathChars, decoded, decode_of_noEscape h.noEscape,
        Utf8.ofString]⟩
  · rintro ⟨p, hpath, hp⟩
    rcases labelPath_cases label with hnone | ⟨body, hbody, hjoined, hwhole⟩
    · cases hnone.symm.trans hpath
    · -- No step from the label to the path and back adds a byte.
      have hresolve := weight_resolve_le [] (pathSegments body)
      have hread := length_decode_le (Utf8.encode body)
      have hsub : (Utf8.encode body).Sublist (Utf8.encode label.toList) :=
        hbody.flatMap Utf8.encodeChar
      have hlength := hsub.length_le
      have hweight := length_decoded_joined (resolve [] (pathSegments body))
      rw [← hjoined, hpath, decoded_slash, hp, List.length_cons,
        Utf8.ofString] at hweight
      rw [weight_pathSegments, decoded, weight] at hresolve
      -- So none may take one away.
      obtain rfl : body = label.toList :=
        Utf8.encode_injective (hsub.eq_of_length (by omega))
      have hescape : NoEscape (Utf8.encode label.toList) :=
        noEscape_of_length (by omega)
      have hdots : ∀ s ∈ pathSegments label.toList, isDots s = false := by
        simpa using List.countP_eq_zero.mp (show _ = 0 by omega)
      obtain ⟨hfirst, hkept⟩ := hwhole rfl
      exact ⟨hfirst, hkept, (pathSegments_no_dots_iff hescape).mp hdots, hescape⟩

theorem isEscapedInPath_of_mem_pathChars {c c' : Char}
    (h : c ∈ pathChars c') : isEscapedInPath c = false := by
  rw [pathChars] at h
  split at h
  · obtain ⟨b, -, hb⟩ := List.mem_flatMap.mp h
    have hlt := b.toNat_lt
    have hdigit : ∀ n < 16, isEscapedInPath (digit n) = false := by decide
    simp only [escape, List.mem_cons, List.not_mem_nil, or_false] at hb
    rcases hb with rfl | rfl | rfl
    · decide
    · exact hdigit _ (by omega)
    · exact hdigit _ (by omega)
  · obtain rfl := List.mem_singleton.mp h
    simpa using ‹¬ isEscapedInPath c = true›

/-- A path holds no character that it has to escape. -/
theorem isEscapedInPath_of_mem_labelPath {label : String} {c : Char}
    (h : c ∈ labelPath label) : isEscapedInPath c = false := by
  rcases labelPath_cases label with hnone | ⟨body, -, hjoined, -⟩
  · simp [hnone] at h
  · rw [hjoined, joined, List.mem_flatMap] at h
    obtain ⟨s, hs, hc⟩ := h
    rcases List.mem_cons.mp hc with rfl | hc
    · decide
    · rcases mem_resolve hs with rfl | hs | hs
      · cases hc
      · cases hs
      · obtain ⟨s', -, rfl⟩ := List.mem_map.mp hs
        obtain ⟨c', -, hc'⟩ := List.mem_flatMap.mp hc
        exact isEscapedInPath_of_mem_pathChars hc'

/-! ## Addresses -/

/-- The label of an account: its name, with the issuer in front if there is
one. -/
def labelOf (account : String) : Option String → String
  | some issuer => issuer ++ ":" ++ account
  | none => account

/-- What the query of an address says. -/
def pairsOf (secret : String) (issuer : Option String) :
    List (String × String) :=
  ("secret", secret) :: (issuer.map fun i => ("issuer", i)).toList

/-- An address is a path and a query. -/
theorem provisioning_eq (secret account : String) (issuer : Option String) :
    provisioning secret account issuer
      = "otpauth://totp" ++ String.ofList (labelPath (labelOf account issuer))
        ++ "?" ++ String.ofList (Form.pairsText (pairsOf secret issuer)) := by
  have hlast (pair : String × String) :
      String.ofList (Form.pairsText [pair])
        = Form.encode pair.1 ++ "=" ++ Form.encode pair.2 := by
    rw [← Form.ofList_pairText, Form.pairsText, List.map_singleton,
      List.intercalate_singleton]
  have hsecret : Form.encode "secret" = "secret" := by decide +kernel
  have hissuer : Form.encode "issuer" = "issuer" := by decide +kernel
  have hmark : "?secret=" = "?" ++ ("secret" ++ "=") := by decide +kernel
  have hmark' : "&issuer=" = "&" ++ ("issuer" ++ "=") := by decide +kernel
  unfold provisioning
  cases issuer with
  | none =>
    rw [pairsOf, Option.map_none, Option.toList_none, hlast, hsecret, hmark]
    simp only [labelOf, String.append_assoc, String.append_empty]
  | some i =>
    rw [pairsOf, Option.map_some, Option.toList_some,
      Form.ofList_pairsText_cons, Form.ofList_pairText, hlast, hsecret, hissuer,
      hmark, hmark']
    simp only [labelOf, String.append_assoc]

end ScriptHost.Url
