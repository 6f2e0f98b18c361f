/-
ScriptHost.Proofs.Time.Duration — which texts and which numbers of seconds are
lengths of time.

The reader takes the longest stretch of digits and points, then the longest
stretch of other characters, and so on to the end of the text. Units hold no
digit and no point, so on a row of numbers with their units these stretches
are the numbers and the units (`readGroup_chars`), and whatever is read at
all was such a row (`exists_group`). `read_isOk_iff` puts a sign in front.

A number of seconds is a length of time if it is finite, not negative and below
the longest length (`IsSeconds`). It is then taken for a whole number of
nanoseconds that is nearest to it (`ofSeconds?_of_isSeconds`). Half of these
lengths reach behind the end of the steady clock, whatever it shows
(`IsNearest.limit_le`).
-/
import Mathlib.Data.List.Basic
import Mathlib.Data.List.TakeWhile
import ScriptHost.Proofs.Number.Binary64
import ScriptHost.Time.Clock
import ScriptHost.Time.Duration

namespace ScriptHost.Duration

/-! ## Numbers -/

/-- Digits with at most one point among them, and at least one digit. -/
structure IsNumber (cs : List Char) : Prop where
  char : ∀ c ∈ cs, c.isDigit = true ∨ c = '.'
  digit : ∃ c ∈ cs, c.isDigit = true
  point : cs.count '.' ≤ 1

/-- The digits that stand behind the point. -/
def fraction (cs : List Char) : List Char :=
  (cs.dropWhile fun c => c ≠ '.').drop 1

/-- The double nearest to a number: that of its digits, with the point as
many places in front of their end as digits stand behind it. -/
def decimal (cs : List Char) : Binary64 :=
  .ofDecimal false (ofDigits 10 (cs.filter Char.isDigit))
    (-((fraction cs).length : Int))

theorem IsNumber.isNumberChar {cs : List Char} (h : IsNumber cs) :
    ∀ c ∈ cs, isNumberChar c = true := by
  intro c hc
  simpa [Duration.isNumberChar] using h.char c hc

theorem IsNumber.ne_nil {cs : List Char} (h : IsNumber cs) : cs ≠ [] := by
  obtain ⟨c, hc, -⟩ := h.digit
  exact List.ne_nil_of_mem hc

section Digits

variable {whole behind : List Char}

theorem point_notMem_digits (digits : ∀ c ∈ whole, c.isDigit = true) :
    '.' ∉ whole :=
  fun h => absurd (digits _ h) (by decide)

theorem spanDigits_point (digits : ∀ c ∈ whole, c.isDigit = true) :
    spanDigits (whole ++ '.' :: behind) = (whole, '.' :: behind) := by
  rw [spanDigits, List.takeWhile_append_of_pos digits,
    List.dropWhile_append_of_pos digits]
  simp

/-- Digits alone are a number. -/
theorem plainDecimal?_digits (digits : ∀ c ∈ whole, c.isDigit = true)
    (hne : whole ≠ []) : plainDecimal? whole = some (decimal whole) := by
  have hspan : spanDigits whole = (whole, []) := by
    rw [spanDigits, List.takeWhile_eq_self_iff.mpr digits,
      List.dropWhile_eq_nil_iff.mpr digits]
  have hpoint : whole.dropWhile (fun c => c ≠ '.') = [] := by
    rw [List.dropWhile_eq_nil_iff]
    intro c hc
    have := ne_of_mem_of_not_mem hc (point_notMem_digits digits)
    simpa using this
  have hfraction : fraction whole = [] := by
    rw [fraction, hpoint, List.drop_nil]
  simp [plainDecimal?, hspan, hne, decimal, hfraction,
    List.filter_eq_self.mpr digits]

/-- So are digits with one point among them. -/
theorem plainDecimal?_point (digits : ∀ c ∈ whole, c.isDigit = true)
    (digits' : ∀ c ∈ behind, c.isDigit = true)
    (hne : whole ++ behind ≠ []) :
    plainDecimal? (whole ++ '.' :: behind)
      = some (decimal (whole ++ '.' :: behind)) := by
  have hfraction : fraction (whole ++ '.' :: behind) = behind := by
    have hwhole : ∀ c ∈ whole, decide (c ≠ '.') = true := by
      intro c hc
      have := ne_of_mem_of_not_mem hc (point_notMem_digits digits)
      simpa using this
    rw [fraction, List.dropWhile_append_of_pos hwhole]
    simp
  have hfilter : (whole ++ '.' :: behind).filter Char.isDigit
      = whole ++ behind := by
    rw [List.filter_append, List.filter_eq_self.mpr digits,
      List.filter_cons_of_neg (by decide), List.filter_eq_self.mpr digits']
  have hboth : ¬ (whole = [] ∧ behind = []) := by
    rintro ⟨rfl, rfl⟩
    exact hne rfl
  have hall : behind.all Char.isDigit = true := List.all_eq_true.mpr digits'
  simp [plainDecimal?, spanDigits_point digits, hall, hboth, decimal,
    hfraction, hfilter]

theorem IsNumber.of_digits (digits : ∀ c ∈ whole, c.isDigit = true)
    (hne : whole ≠ []) : IsNumber whole := by
  obtain ⟨c, hc⟩ := List.exists_mem_of_ne_nil whole hne
  refine ⟨fun c hc => .inl (digits c hc), ⟨c, hc, digits c hc⟩, ?_⟩
  rw [List.count_eq_zero_of_not_mem (point_notMem_digits digits)]
  exact Nat.zero_le 1

theorem IsNumber.of_point (digits : ∀ c ∈ whole, c.isDigit = true)
    (digits' : ∀ c ∈ behind, c.isDigit = true)
    (hne : whole ++ behind ≠ []) : IsNumber (whole ++ '.' :: behind) := by
  obtain ⟨c, hc⟩ := List.exists_mem_of_ne_nil _ hne
  refine ⟨?_, ⟨c, ?_, ?_⟩, ?_⟩
  · intro c hc
    rcases List.mem_append.mp hc with hc | hc
    · exact .inl (digits c hc)
    · rcases List.mem_cons.mp hc with rfl | hc
      · exact .inr rfl
      · exact .inl (digits' c hc)
  · rcases List.mem_append.mp hc with hc | hc <;> simp [hc]
  · rcases List.mem_append.mp hc with hc | hc
    · exact digits c hc
    · exact digits' c hc
  · rw [List.count_append, List.count_cons_self,
      List.count_eq_zero_of_not_mem (point_notMem_digits digits),
      List.count_eq_zero_of_not_mem (point_notMem_digits digits')]

end Digits

/-- A number has a point or it has none. -/
theorem IsNumber.cases {cs : List Char} (h : IsNumber cs) :
    ((∀ c ∈ cs, c.isDigit = true) ∧ cs ≠ [])
      ∨ ∃ whole behind, cs = whole ++ '.' :: behind
        ∧ (∀ c ∈ whole, c.isDigit = true) ∧ (∀ c ∈ behind, c.isDigit = true)
        ∧ whole ++ behind ≠ [] := by
  have digit_of {c : Char} (hc : c ∈ cs) (hne : c ≠ '.') :
      c.isDigit = true := (h.char c hc).resolve_right hne
  by_cases hmem : '.' ∈ cs
  · obtain ⟨whole, behind, rfl, hwhole⟩ := List.eq_append_cons_of_mem hmem
    have hbehind : '.' ∉ behind := by
      have hcount := h.point
      rw [List.count_append, List.count_cons_self] at hcount
      exact List.count_eq_zero.mp (by omega)
    refine .inr ⟨whole, behind, rfl, ?_, ?_, ?_⟩
    · exact fun c hc => digit_of (by simp [hc]) (ne_of_mem_of_not_mem hc hwhole)
    · exact fun c hc =>
        digit_of (by simp [hc]) (ne_of_mem_of_not_mem hc hbehind)
    · intro hnil
      obtain ⟨rfl, rfl⟩ := List.append_eq_nil_iff.mp hnil
      obtain ⟨c, hc, hdigit⟩ := h.digit
      rw [List.nil_append, List.mem_singleton] at hc
      exact absurd (hc ▸ hdigit) (by decide)
  · exact .inl ⟨fun c hc => digit_of hc (ne_of_mem_of_not_mem hc hmem),
      h.ne_nil⟩

/-- What is read is a number. -/
theorem isNumber_of_plainDecimal? {cs : List Char} {x : Binary64}
    (h : plainDecimal? cs = some x) : IsNumber cs := by
  have hsplit : (spanDigits cs).1 ++ (spanDigits cs).2 = cs :=
    List.takeWhile_append_dropWhile
  have digits : ∀ c ∈ (spanDigits cs).1, c.isDigit = true :=
    fun c hc => List.mem_takeWhile_imp hc
  unfold plainDecimal? at h
  generalize spanDigits cs = span at h hsplit digits
  obtain ⟨whole, rest⟩ := span
  dsimp only at h hsplit digits
  split at h
  · split at h
    · cases h
    · rename_i hne
      rw [← hsplit, List.append_nil]
      exact .of_digits digits (by simpa using hne)
  · rename_i behind
    split at h
    · cases h
    · rename_i hgood
      simp only [Bool.or_eq_true, Bool.not_eq_true', Bool.and_eq_true,
        List.isEmpty_iff, not_or, Bool.not_eq_false] at hgood
      rw [← hsplit]
      exact .of_point digits (List.all_eq_true.mp hgood.1)
        (mt List.append_eq_nil_iff.mp hgood.2)
  · cases h

/-- **What is read as a number, and as which.** -/
theorem plainDecimal?_eq_some_iff {cs : List Char} {x : Binary64} :
    plainDecimal? cs = some x ↔ IsNumber cs ∧ x = decimal cs := by
  have reads (h : IsNumber cs) : plainDecimal? cs = some (decimal cs) := by
    rcases h.cases with ⟨digits, hne⟩ | ⟨whole, behind, rfl, hw, hb, hne⟩
    · exact plainDecimal?_digits digits hne
    · exact plainDecimal?_point hw hb hne
  constructor
  · intro h
    have number := isNumber_of_plainDecimal? h
    rw [reads number] at h
    exact ⟨number, (Option.some.inj h).symm⟩
  · rintro ⟨number, rfl⟩
    exact reads number

/-! ## Units -/

/-- The spellings of units. Two of those for microseconds begin with the
micro sign and with the Greek letter. -/
def unitNames : List String :=
  ["ns", "us", "\u00b5s", "\u03bcs", "ms", "s", "m", "h"]

theorem unit?_isSome_iff {cs : List Char} :
    (unit? cs).isSome = true ↔ cs ∈ unitNames.map String.toList := by
  have hnames : unitNames.map String.toList = units.map Prod.fst := by decide
  rw [hnames, unit?]
  induction units with
  | nil => simp
  | cons u rest ih =>
    obtain ⟨name, scale⟩ := u
    rw [List.map_cons, List.mem_cons, List.lookup_cons]
    by_cases h : cs = name
    · simp [h]
    · rw [beq_eq_false_iff_ne.mpr h, or_iff_right h]
      exact ih

theorem unit_chars :
    ∀ unit ∈ unitNames.map String.toList,
      unit ≠ [] ∧ ∀ c ∈ unit, isNumberChar c = false := by
  have hall : (unitNames.map String.toList).all (fun unit =>
      unit ≠ [] && unit.all fun c => isNumberChar c = false) = true := by
    decide
  simpa using hall

/-! ## Groups -/

/-- A number with its unit. -/
structure Group where
  number : List Char
  unit : List Char
  isNumber : IsNumber number
  isUnit : unit ∈ unitNames.map String.toList

namespace Group

variable (g : Group)

/-- The group as text. -/
def chars : List Char := g.number ++ g.unit

/-- The seconds of the unit. -/
def scale : Binary64 := (unit? g.unit).get (unit?_isSome_iff.mpr g.isUnit)

/-- The seconds that the group is. -/
def seconds : Binary64 := (decimal g.number).mul g.scale

theorem unit?_eq : unit? g.unit = some g.scale := (Option.some_get _).symm

theorem plainDecimal?_eq : plainDecimal? g.number = some (decimal g.number) :=
  plainDecimal?_eq_some_iff.mpr ⟨g.isNumber, rfl⟩

theorem unit_ne_nil : g.unit ≠ [] := (unit_chars g.unit g.isUnit).1

theorem unit_outside : ∀ c ∈ g.unit, isNumberChar c = false :=
  (unit_chars g.unit g.isUnit).2

theorem chars_ne_nil : g.chars ≠ [] := by
  rw [chars]
  exact mt List.append_eq_nil_iff.mp fun h => g.unit_ne_nil h.2

end Group

/-- A row of groups begins with a digit or a point. -/
theorem head_groups (groups : List Group) :
    ∀ c ∈ (groups.flatMap Group.chars).head?, isNumberChar c = true := by
  intro c hc
  cases groups with
  | nil => cases hc
  | cons g rest =>
    obtain ⟨d, number, hnumber⟩ :=
      List.exists_cons_of_ne_nil g.isNumber.ne_nil
    rw [List.flatMap_cons, Group.chars, hnumber] at hc
    obtain rfl : d = c := by simpa using hc
    exact g.isNumber.isNumberChar d (by simp [hnumber])

/-- It ends with neither. -/
theorem getLast_groups (groups : List Group) :
    ∀ c ∈ (groups.flatMap Group.chars).getLast?, isNumberChar c = false := by
  intro c hc
  rcases List.eq_nil_or_concat groups with rfl | ⟨before, g, rfl⟩
  · cases hc
  · rw [List.concat_eq_append, List.flatMap_append, List.flatMap_singleton,
      Group.chars, ← List.append_assoc,
      List.getLast?_append_of_ne_nil _ g.unit_ne_nil] at hc
    exact g.unit_outside c (List.mem_of_getLast? hc)

/-- **A group is read, whatever group comes behind it.** -/
theorem readGroup_chars (g : Group) {rest : List Char}
    (hrest : ∀ c ∈ rest.head?, isNumberChar c = true) :
    readGroup (g.chars ++ rest) = .ok (g.seconds, rest) := by
  have number := g.isNumber.isNumberChar
  have unit : ∀ c ∈ g.unit, (!isNumberChar c) = true :=
    fun c hc => by rw [g.unit_outside c hc, Bool.not_false]
  have htakeUnit : (g.unit ++ rest).takeWhile isNumberChar = [] := by
    obtain ⟨c, tail, htail⟩ := List.exists_cons_of_ne_nil g.unit_ne_nil
    have hc := g.unit_outside c (by simp [htail])
    rw [htail, List.cons_append, List.takeWhile_cons_of_neg (by simp [hc])]
  have hdropUnit :
      (g.unit ++ rest).dropWhile isNumberChar = g.unit ++ rest := by
    have hsplit := List.takeWhile_append_dropWhile (p := isNumberChar)
      (l := g.unit ++ rest)
    rwa [htakeUnit, List.nil_append] at hsplit
  have hstop : rest.takeWhile (fun c => !isNumberChar c) = []
      ∧ rest.dropWhile (fun c => !isNumberChar c) = rest := by
    cases rest with
    | nil => exact ⟨rfl, rfl⟩
    | cons c tail =>
      have hc := hrest c rfl
      exact ⟨List.takeWhile_cons_of_neg (by simp [hc]),
        List.dropWhile_cons_of_neg (by simp [hc])⟩
  rw [readGroup_eq, Group.chars, List.append_assoc,
    List.takeWhile_append_of_pos number, htakeUnit, List.append_nil,
    List.dropWhile_append_of_pos number, hdropUnit,
    List.takeWhile_append_of_pos unit, hstop.1, List.append_nil,
    List.dropWhile_append_of_pos unit, hstop.2, g.plainDecimal?_eq, g.unit?_eq]
  rfl

/-- **What is read was a group.** -/
theorem exists_group {cs rest : List Char} {x : Binary64}
    (h : readGroup cs = .ok (x, rest)) :
    ∃ g : Group, cs = g.chars ++ rest ∧ x = g.seconds := by
  rw [readGroup_eq] at h
  split at h
  · rename_i value scale hnumber hunit
    obtain ⟨isNumber, rfl⟩ := plainDecimal?_eq_some_iff.mp hnumber
    have isUnit := unit?_isSome_iff.mp (Option.isSome_of_eq_some hunit)
    cases h
    refine ⟨⟨_, _, isNumber, isUnit⟩, ?_, ?_⟩
    · rw [Group.chars, List.append_assoc, List.takeWhile_append_dropWhile,
        List.takeWhile_append_dropWhile]
    · simp only [Group.seconds, Group.scale, hunit, Option.get_some]
  · cases h

theorem readGroup_error {cs : List Char} {e : Refusal}
    (h : readGroup cs = .error e) : e = .malformed := by
  rw [readGroup_eq] at h
  split at h <;> cases h
  rfl

/-! ## Rows of groups -/

/-- The seconds of a row of groups, added from left to right. -/
def total (sum : Binary64) (groups : List Group) : Binary64 :=
  groups.foldl (fun sum g => sum.add g.seconds) sum

theorem readGroups_nil (sum : Binary64) : readGroups sum [] = .ok sum := by
  rw [readGroups]
  rfl

theorem readGroups_ok {sum x : Binary64} {cs rest : List Char}
    (hne : cs ≠ []) (h : readGroup cs = .ok (x, rest)) :
    readGroups sum cs = readGroups (sum.add x) rest := by
  rw [readGroups, if_neg (by simpa using hne)]
  split
  · rename_i heq
    rw [h] at heq
    cases heq
  · rename_i heq
    rw [h] at heq
    cases heq
    rfl

theorem readGroups_error {sum : Binary64} {cs : List Char} {e : Refusal}
    (hne : cs ≠ []) (h : readGroup cs = .error e) :
    readGroups sum cs = .error e := by
  rw [readGroups, if_neg (by simpa using hne)]
  split
  · rename_i heq
    rw [h] at heq
    cases heq
    rfl
  · rename_i heq
    rw [h] at heq
    cases heq

/-- A row of groups is read to its end. -/
theorem readGroups_chars (groups : List Group) (sum : Binary64) :
    readGroups sum (groups.flatMap Group.chars) = .ok (total sum groups) := by
  induction groups generalizing sum with
  | nil => exact readGroups_nil sum
  | cons g rest ih =>
    rw [List.flatMap_cons, readGroups_ok (by simp [g.chars_ne_nil])
      (readGroup_chars g (head_groups rest)), ih]
    rfl

/-- A text is a row of groups, or it has another form; it is never cut inside
a character. -/
theorem readGroups_cases (sum : Binary64) (cs : List Char) :
    (∃ groups : List Group, cs = groups.flatMap Group.chars)
      ∨ readGroups sum cs = .error .malformed := by
  induction hn : cs.length using Nat.strongRecOn generalizing sum cs with
  | ind n ih =>
    subst hn
    by_cases hne : cs = []
    · exact .inl ⟨[], by simp [hne]⟩
    · cases hgroup : readGroup cs with
      | error e =>
        rw [readGroups_error hne hgroup, readGroup_error hgroup]
        exact .inr rfl
      | ok part =>
        obtain ⟨x, rest⟩ := part
        rw [readGroups_ok hne hgroup]
        obtain ⟨g, hcs, -⟩ := exists_group hgroup
        refine (ih _ (length_of_readGroup hgroup) _ rest rfl).imp_left ?_
        rintro ⟨groups, hrest⟩
        exact ⟨g :: groups, by rw [List.flatMap_cons, ← hrest, hcs]⟩

/-! ## Signs -/

/-- What may stand in front: nothing, or one sign. -/
def signs : List (List Char) := [[], ['-'], ['+']]

/-- Seconds with a sign in front. -/
def signed (sign : List Char) (x : Binary64) : Binary64 :=
  if sign = ['-'] then x.neg else x

/-- A length of time: at most one sign, and then a zero alone or one or more
groups. -/
def IsLength (cs : List Char) : Prop :=
  ∃ sign ∈ signs, ∃ body, cs = sign ++ body
    ∧ (body = ['0']
      ∨ ∃ groups : List Group, groups ≠ [] ∧ body = groups.flatMap Group.chars)

theorem splitSign_append {sign body : List Char} (hsign : sign ∈ signs)
    (hbody : ∀ c ∈ body.head?, isNumberChar c = true) :
    ScriptNumber.splitSign (sign ++ body) = (decide (sign = ['-']), body) := by
  simp only [signs, List.mem_cons, List.not_mem_nil, or_false] at hsign
  rcases hsign with rfl | rfl | rfl
  · rw [List.nil_append]
    unfold ScriptNumber.splitSign
    split
    · exact absurd (hbody '-' rfl) (by decide)
    · exact absurd (hbody '+' rfl) (by decide)
    · rfl
  · rfl
  · rfl

theorem exists_sign (cs : List Char) :
    ∃ sign ∈ signs, cs = sign ++ (ScriptNumber.splitSign cs).2
      ∧ (ScriptNumber.splitSign cs).1 = decide (sign = ['-']) := by
  unfold ScriptNumber.splitSign
  split
  · exact ⟨['-'], by decide, rfl, rfl⟩
  · exact ⟨['+'], by decide, rfl, rfl⟩
  · exact ⟨[], by decide, rfl, rfl⟩

/-- A zero alone needs no unit. -/
theorem readChars_zero {sign : List Char} (hsign : sign ∈ signs) :
    readChars (sign ++ ['0']) = .ok .zero := by
  rw [readChars, splitSign_append hsign (by simp [isNumberChar])]
  rfl

/-- Groups are read with the sign in front of them. -/
theorem readChars_groups {sign : List Char} (hsign : sign ∈ signs)
    {groups : List Group} (hne : groups ≠ []) :
    readChars (sign ++ groups.flatMap Group.chars)
      = .ok (signed sign (total .zero groups)) := by
  have hbody : groups.flatMap Group.chars ≠ [] := by
    obtain ⟨g, rest, rfl⟩ := List.exists_cons_of_ne_nil hne
    simp [g.chars_ne_nil]
  have hzero : groups.flatMap Group.chars ≠ ['0'] := by
    intro h
    have hlast := getLast_groups groups '0' (by rw [h]; rfl)
    exact absurd hlast (by decide)
  rw [readChars, splitSign_append hsign (head_groups groups)]
  dsimp only
  rw [if_neg hzero, if_neg (by simpa using hbody), readGroups_chars]
  simp [Except.map, signed]

/-- Any other text is refused. -/
theorem readChars_cases (cs : List Char) :
    IsLength cs ∨ readChars cs = .error .malformed := by
  obtain ⟨sign, hsign, hcs, -⟩ := exists_sign cs
  rw [readChars]
  generalize ScriptNumber.splitSign cs = parts at hcs ⊢
  obtain ⟨negative, body⟩ := parts
  dsimp only at hcs ⊢
  split
  · exact .inl ⟨sign, hsign, body, hcs, .inl ‹_›⟩
  · split
    · exact .inr rfl
    · rename_i hne
      rcases readGroups_cases .zero body with ⟨groups, rfl⟩ | hbad
      · refine .inl ⟨sign, hsign, _, hcs, .inr ⟨groups, ?_, rfl⟩⟩
        rintro rfl
        exact hne rfl
      · rw [hbad]
        exact .inr rfl

/-- A text is read exactly if it is a length of time. -/
theorem read_isOk_iff (text : String) :
    (∃ x, read text = .ok x) ↔ IsLength text.toList := by
  constructor
  · rintro ⟨x, hx⟩
    refine (readChars_cases text.toList).resolve_right fun hbad => ?_
    rw [read, hbad] at hx
    cases hx
  · rintro ⟨sign, hsign, body, hcs, rfl | ⟨groups, hne, rfl⟩⟩
    · exact ⟨_, by rw [read, hcs, readChars_zero hsign]⟩
    · exact ⟨_, by rw [read, hcs, readChars_groups hsign hne]⟩

theorem read_of_not_isLength {text : String}
    (h : ¬ IsLength text.toList) : read text = .error .malformed :=
  (readChars_cases text.toList).resolve_left h

/-- **A text is never cut inside a character.** -/
theorem read_ne_split (text : String) : read text ≠ .error .split := by
  intro h
  by_cases hlength : IsLength text.toList
  · obtain ⟨x, hx⟩ := (read_isOk_iff text).mpr hlength
    rw [hx] at h
    cases h
  · rw [read_of_not_isLength hlength] at h
    cases h

/-! ## Stretches -/

/-- A stretch of characters of a kind that goes on at neither end. -/
structure IsRun (p : Char → Bool) (front run rest : List Char) : Prop where
  ne_nil : run ≠ []
  char : ∀ c ∈ run, p c = true
  front : ∀ c ∈ front.getLast?, p c = false
  rest : ∀ c ∈ rest.head?, p c = false

variable {sign : List Char} {before : List Group} {g : Group}
  {after : List Group}

/-- The number of a group is all digits and points at its place. -/
theorem isRun_number (hsign : sign ∈ signs) :
    IsRun isNumberChar (sign ++ before.flatMap Group.chars) g.number
      (g.unit ++ after.flatMap Group.chars) where
  ne_nil := g.isNumber.ne_nil
  char := g.isNumber.isNumberChar
  front := by
    intro c hc
    by_cases hbefore : before.flatMap Group.chars = []
    · have hsigns : ∀ sign ∈ signs, ∀ c ∈ sign.getLast?,
          isNumberChar c = false := by simp [signs, isNumberChar]
      rw [hbefore, List.append_nil] at hc
      exact hsigns sign hsign c hc
    · rw [List.getLast?_append_of_ne_nil _ hbefore] at hc
      exact getLast_groups before c hc
  rest := by
    intro c hc
    obtain ⟨d, tail, hunit⟩ := List.exists_cons_of_ne_nil g.unit_ne_nil
    rw [hunit] at hc
    obtain rfl : d = c := by simpa using hc
    exact g.unit_outside d (by simp [hunit])

/-- Its unit is all else up to the next number. -/
theorem isRun_unit :
    IsRun (fun c => !isNumberChar c)
      (sign ++ before.flatMap Group.chars ++ g.number) g.unit
      (after.flatMap Group.chars) where
  ne_nil := g.unit_ne_nil
  char := fun c hc => by rw [g.unit_outside c hc, Bool.not_false]
  front := by
    intro c hc
    rw [List.getLast?_append_of_ne_nil _ g.isNumber.ne_nil] at hc
    rw [g.isNumber.isNumberChar c (List.mem_of_getLast? hc), Bool.not_true]
  rest := fun c hc => by rw [head_groups after c hc, Bool.not_true]

/-! ## Numbers of seconds -/

section Seconds

open Binary64

/-- The number of seconds is a length of time. -/
structure IsSeconds (x : Binary64) : Prop where
  finite : x.isFinite = true
  nonneg : 0 ≤ x.toRat
  below : x.toRat < secondLimit

/-- No whole number of nanoseconds is nearer to the number of seconds. -/
def IsNearest (x : Binary64) (nanoseconds : Nat) : Prop :=
  |(nanoseconds : ℚ) - x.toRat * perSecond| ≤ 1 / 2

theorem ofSeconds?_eq (x : Binary64) :
    (IsSeconds x ∧ ofSeconds? x
        = some (roundHalfEven (perSecond * x.ratio.1) x.ratio.2))
      ∨ (¬ IsSeconds x ∧ ofSeconds? x = none) := by
  have hden : (0 : ℚ) < x.ratio.2 := Nat.cast_pos.mpr x.ratio_pos
  rw [ofSeconds?]
  split
  · next hbad =>
    refine .inr ⟨fun h => ?_, rfl⟩
    simp [h.finite, (toRat_nonneg_iff x).mp h.nonneg] at hbad
  · next hgood =>
    obtain ⟨hfinite, hsign⟩ : x.isFinite = true
        ∧ (x.negative && !x.isZero) = false := by
      simpa using hgood
    have hnonneg := (toRat_nonneg_iff x).mpr hsign
    have hbelow : x.toRat < secondLimit
        ↔ ¬ secondLimit * x.ratio.2 ≤ x.ratio.1 := by
      rw [toRat_of_nonneg hnonneg, div_lt_iff₀ hden, Nat.not_le]
      exact_mod_cast Iff.rfl
    dsimp only
    split
    · next hlong => exact .inr ⟨fun h => hbelow.mp h.below hlong, rfl⟩
    · next hshort => exact .inl ⟨⟨hfinite, hnonneg, hbelow.mpr hshort⟩, rfl⟩

theorem ofSeconds?_of_not_isSeconds {x : Binary64} (h : ¬ IsSeconds x) :
    ofSeconds? x = none :=
  (ofSeconds?_eq x).elim (fun hseconds => absurd hseconds.1 h) And.right

/-- **A length of time is taken to the nearest nanosecond.** -/
theorem ofSeconds?_of_isSeconds {x : Binary64} (h : IsSeconds x) :
    ∃ ns, ofSeconds? x = some ns ∧ IsNearest x ns := by
  rcases ofSeconds?_eq x with ⟨-, hsome⟩ | ⟨hnot, -⟩
  · refine ⟨_, hsome, ?_⟩
    rw [IsNearest]
    have hhalf := roundHalfEven_half (perSecond * x.ratio.1) x.ratio_pos
    rwa [Nat.cast_mul, mul_div_assoc, ← toRat_of_nonneg h.nonneg,
      mul_comm (perSecond : ℚ)] at hhalf
  · exact absurd h hnot

/-- A whole number of seconds is taken as it is. -/
theorem IsNearest.eq {x : Binary64} {ns k : Nat} (h : IsNearest x ns)
    (hx : x.toRat = k) : ns = k * perSecond := by
  rw [IsNearest, hx, abs_le] at h
  have habove : ((k * perSecond : Nat) : ℚ) < ns + 1 := by
    push_cast
    linarith [h.1]
  have hbelow : (ns : ℚ) < (k * perSecond : Nat) + 1 := by
    push_cast
    linarith [h.2]
  exact Nat.le_antisymm (Nat.le_of_lt_succ (by exact_mod_cast hbelow))
    (Nat.le_of_lt_succ (by exact_mod_cast habove))

/-- So many seconds from the start of the steady clock are behind its end. -/
theorem IsNearest.limit_le {x : Binary64} {ns : Nat} (h : IsNearest x ns)
    (long : 0x8000000000000000 ≤ x.toRat) : Clock.limit ≤ ns := by
  have hclose := (abs_le.mp h).1
  have hlimit : (Clock.limit : ℚ) ≤ x.toRat * perSecond := by
    rw [Clock.limit, Nat.cast_mul]
    exact mul_le_mul_of_nonneg_right long (Nat.cast_nonneg _)
  have hhalf : (Clock.limit : ℚ) < ns + 1 := by linarith
  exact Nat.le_of_lt_succ (by exact_mod_cast hhalf)

end Seconds

end ScriptHost.Duration
