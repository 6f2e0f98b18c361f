/-
ScriptHost.Proofs.Time.Instant — points in time and the seconds since 1970.

A point in time counts seconds (`Instant.unix`). `ofUnix?_some` says that a
number of seconds is broken down into a point in time that counts as many,
and `ofUnix?_eq` from when to when there is one. Points in time and their
seconds have the same order (`unix_lt_iff`), and the text of a point in time
spells its parts (`Proper.spelled_text`).
-/
import Mathlib.Data.List.Lex
import ScriptHost.Proofs.Number.Decimal
import ScriptHost.Proofs.Time.Civil
import ScriptHost.Time.Instant

namespace ScriptHost

namespace Date

/-- A date is in a year or later exactly if so many days are in front of
it. -/
theorem Proper.year_ge_iff {d : Date} (h : d.Proper) (year : Int) :
    year ≤ d.year ↔ daysBeforeYear year ≤ d.dayNumber := by
  constructor
  · exact fun hyear => Int.le_trans (daysBeforeYear_mono hyear) h.inYear.1
  · intro hdays
    by_contra hyear
    have hnext := daysBeforeYear_mono (a := d.year + 1) (b := year) (by omega)
    have := h.inYear.2
    omega

/-- The dates that are kept. -/
theorem Proper.isValid_iff {d : Date} (h : d.Proper) :
    d.isValid = true
      ↔ daysBeforeYear leastYear ≤ d.dayNumber
        ∧ d.dayNumber < daysBeforeYear (largestYear + 1) := by
  rw [← h.year_ge_iff, ← Int.not_le, ← h.year_ge_iff]
  obtain ⟨hmonth, hmonth', hday, hday'⟩ := h
  simp only [isValid, Bool.and_eq_true, decide_eq_true_eq]
  omega

end Date

namespace Instant

/-! ## Seconds -/

/-- Seconds from the start of 1970 to a point in time. -/
def unix (i : Instant) : Int :=
  86400 * i.date.dayNumber + 3600 * i.hour + 60 * i.minute + i.second

/-- A point in time that exists, with the name of its day of the week. -/
structure Proper (i : Instant) : Prop where
  date : i.date.Proper
  hour_lt : i.hour < 24
  minute_lt : i.minute < 60
  second_lt : i.second < 60
  weekday_eq : i.weekday = Date.weekday i.date.dayNumber

/-- Its parts, the largest first. -/
def fields (i : Instant) : List Int :=
  i.date.fields ++ [(i.hour : Int), (i.minute : Int), (i.second : Int)]

theorem fields_lt_iff {i j : Instant} :
    i.fields < j.fields
      ↔ i.date.fields < j.date.fields
        ∨ i.date = j.date
          ∧ (i.hour < j.hour
            ∨ i.hour = j.hour
              ∧ (i.minute < j.minute
                ∨ i.minute = j.minute ∧ i.second < j.second)) := by
  obtain ⟨⟨y, m, d⟩, h, min, s, w⟩ := i
  obtain ⟨⟨y', m', d'⟩, h', min', s', w'⟩ := j
  simp only [fields, Date.fields, List.cons_append, List.nil_append,
    List.cons_lt_cons_iff, Int.natCast_inj, Int.ofNat_lt, Date.mk.injEq,
    List.not_lt_nil, and_false, or_false]
  tauto

/-- **Later points in time count more seconds.** -/
theorem unix_lt {i j : Instant} (hi : i.Proper) (hj : j.Proper)
    (h : i.fields < j.fields) : i.unix < j.unix := by
  have := hi.hour_lt
  have := hi.minute_lt
  have := hi.second_lt
  unfold unix
  rcases fields_lt_iff.mp h with hdate | ⟨hdate, hclock⟩
  · have := Date.dayNumber_lt hi.date hj.date hdate
    omega
  · rw [hdate]
    omega

theorem unix_eq {i j : Instant} (h : i.fields = j.fields) :
    i.unix = j.unix := by
  obtain ⟨⟨_, _, _⟩, _, _, _, _⟩ := i
  obtain ⟨⟨_, _, _⟩, _, _, _, _⟩ := j
  simp only [fields, Date.fields, List.cons_append, List.nil_append,
    List.cons.injEq, Int.natCast_inj, and_true] at h
  obtain ⟨rfl, rfl, rfl, rfl, rfl, rfl⟩ := h
  rfl

/-- The order of points in time is that of their seconds. -/
theorem unix_lt_iff {i j : Instant} (hi : i.Proper) (hj : j.Proper) :
    i.unix < j.unix ↔ i.fields < j.fields := by
  refine ⟨fun h => ?_, unix_lt hi hj⟩
  rcases lt_trichotomy i.fields j.fields with hlt | heq | hlt
  · exact hlt
  · exact absurd (unix_eq heq) (Int.ne_of_lt h)
  · exact absurd (unix_lt hj hi hlt) (Int.lt_asymm h)

theorem unix_inj {i j : Instant} (hi : i.Proper) (hj : j.Proper) :
    i.unix = j.unix ↔ i.fields = j.fields := by
  refine ⟨fun h => ?_, unix_eq⟩
  rcases lt_trichotomy i.fields j.fields with hlt | heq | hlt
  · exact absurd h (Int.ne_of_lt (unix_lt hi hj hlt))
  · exact heq
  · exact absurd h.symm (Int.ne_of_lt (unix_lt hj hi hlt))

/-! ## The point in time of a number of seconds -/

/-- The first and the last second that are broken down. -/
def earliest : Int := -8334601228800
def latest : Int := 8210266876799

theorem unix_mem_iff {i : Instant} (h : i.Proper) :
    i.date.isValid = true ↔ earliest ≤ i.unix ∧ i.unix ≤ latest := by
  have hleast : Date.daysBeforeYear Date.leastYear * 86400 = earliest := by
    decide
  have hlargest : Date.daysBeforeYear (Date.largestYear + 1) * 86400
      = latest + 1 := by decide
  have := h.hour_lt
  have := h.minute_lt
  have := h.second_lt
  rw [h.date.isValid_iff]
  unfold unix
  omega

/-- The point in time of a number of seconds, kept or not. -/
def ofUnix (seconds : Int) : Instant where
  date := Date.ofDays (seconds / dayLength)
  hour := (seconds % dayLength).toNat / 3600
  minute := (seconds % dayLength).toNat / 60 % 60
  second := (seconds % dayLength).toNat % 60
  weekday := Date.weekday (seconds / dayLength)

theorem proper_ofUnix (seconds : Int) : (ofUnix seconds).Proper where
  date := Date.proper_ofDays _
  hour_lt := by
    simp only [ofUnix, dayLength]
    omega
  minute_lt := Nat.mod_lt _ (by decide)
  second_lt := Nat.mod_lt _ (by decide)
  weekday_eq := by
    simp only [ofUnix, Date.dayNumber_ofDays]

theorem unix_ofUnix (seconds : Int) : (ofUnix seconds).unix = seconds := by
  simp only [unix, ofUnix, Date.dayNumber_ofDays, dayLength]
  omega

theorem ofUnix?_eq (seconds : Int) :
    ofUnix? seconds
      = if earliest ≤ seconds ∧ seconds ≤ latest then some (ofUnix seconds)
        else none := by
  have hkept := unix_mem_iff (proper_ofUnix seconds)
  rw [unix_ofUnix] at hkept
  simp only [← hkept]
  rfl

/-- **Seconds are broken down into a point in time that counts them.** -/
theorem ofUnix?_some {seconds : Int} {i : Instant}
    (h : ofUnix? seconds = some i) : i.Proper ∧ i.unix = seconds := by
  rw [ofUnix?_eq] at h
  split at h
  · obtain rfl := Option.some.inj h
    exact ⟨proper_ofUnix seconds, unix_ofUnix seconds⟩
  · cases h

/-! ## Text -/

/-- A row of so many digits that spells a number. -/
structure Digits (width : Nat) (cs : List Char) (n : Nat) : Prop where
  length_eq : cs.length = width
  digit : ∀ c ∈ cs, c.isDigit = true
  value : ofDigits 10 cs = n

/-- A year in four digits; one that is negative or needs more has its sign
and at least four digits. -/
def YearDigits (cs : List Char) (year : Int) : Prop :=
  ∃ sign digits : List Char, cs = sign ++ digits
    ∧ sign = (if year < 0 then ['-'] else if 9999 < year then ['+'] else [])
    ∧ 4 ≤ digits.length ∧ Digits digits.length digits year.natAbs

/-- The text of a point in time: each part in its place. -/
def Spelled (i : Instant) (cs : List Char) : Prop :=
  ∃ year month day hour minute second : List Char,
    cs = year ++ '-' :: (month ++ '-' :: (day ++ ' ' :: (hour
      ++ ':' :: (minute ++ ':' :: second))))
    ∧ YearDigits year i.date.year
    ∧ Digits 2 month i.date.month ∧ Digits 2 day i.date.day
    ∧ Digits 2 hour i.hour ∧ Digits 2 minute i.minute
    ∧ Digits 2 second i.second

theorem digits_twoDigits {n : Nat} (h : n < 100) :
    Digits 2 (twoDigits n).toList n := by
  obtain ⟨hlength, hdigits, hvalue⟩ :=
    Decimal.paddedChars_digits (show 0 < 2 by decide) h
  rw [twoDigits, Decimal.padded, String.toList_ofList]
  exact ⟨hlength, hdigits, hvalue⟩

theorem yearDigits_yearText (year : Int) :
    YearDigits (yearText year).toList year := by
  obtain ⟨hlength, hdigits, hvalue⟩ :=
    Decimal.paddedChars_spells 4 year.natAbs
  refine ⟨_, Decimal.paddedChars 4 year.natAbs, ?_, rfl, hlength,
    ⟨rfl, hdigits, hvalue⟩⟩
  unfold yearText Decimal.padded
  dsimp only
  split
  · simp only [String.toList_append, String.toList_ofList]
    rfl
  · split
    · simp only [String.toList_append, String.toList_ofList]
      rfl
    · exact String.toList_ofList

/-- **The text of a point in time spells its parts.** -/
theorem Proper.spelled_text {i : Instant} (h : i.Proper) :
    i.Spelled i.text.toList := by
  have hmonth := h.date.month_le
  have hday := h.date.day_le
  have hlength : Date.monthLength i.date.year i.date.month ≤ 31 := by
    unfold Date.monthLength
    repeat' split
    all_goals decide
  have := h.hour_lt
  have := h.minute_lt
  have := h.second_lt
  refine ⟨_, _, _, _, _, _, ?_, yearDigits_yearText _,
    digits_twoDigits (by omega), digits_twoDigits (by omega),
    digits_twoDigits (by omega), digits_twoDigits (by omega),
    digits_twoDigits (by omega)⟩
  simp only [text, String.toList_append, List.append_assoc]
  rfl

end Instant

end ScriptHost
