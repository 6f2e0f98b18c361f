/-
ScriptHost.Proofs.Time.Civil — dates and the days since 1970.

`Date.dayNumber` counts days by the lengths of years and months. The
calendar's arithmetic counts years from March on, so that a day is known by
the centuries, the spans of four years and the years in front of it
(`EraDay`). `dayNumber_ofDays` says that both ways to count agree: the date
of a day exists, and so many days lie in front of it. Dates and day numbers
have the same order (`dayNumber_lt`).
-/
import Mathlib.Algebra.BigOperators.Group.List.Basic
import Mathlib.Tactic.IntervalCases
import ScriptHost.Time.Civil

namespace ScriptHost.Date

/-! ## Counting days -/

/-- How many days a year has. -/
def yearLength (year : Int) : Nat := if isLeap year then 366 else 365

/-- Days from the start of 1970 to that of a year; up to then there have been
477 leap days. -/
def daysBeforeYear (year : Int) : Int :=
  365 * (year - 1970)
    + ((year - 1) / 4 - (year - 1) / 100 + (year - 1) / 400 - 477)

/-- Days from the start of a year to that of a month. -/
def daysBeforeMonth (year : Int) (month : Nat) : Nat :=
  ((List.range (month - 1)).map fun m => monthLength year (m + 1)).sum

/-- Days from the start of 1970 to a date. -/
def dayNumber (d : Date) : Int :=
  daysBeforeYear d.year + daysBeforeMonth d.year d.month + d.day - 1

/-- A date that exists: its month has the day. -/
structure Proper (d : Date) : Prop where
  month_pos : 1 ≤ d.month
  month_le : d.month ≤ 12
  day_pos : 1 ≤ d.day
  day_le : d.day ≤ monthLength d.year d.month

theorem isLeap_iff {year : Int} :
    isLeap year = true ↔ year % 4 = 0 ∧ (year % 100 ≠ 0 ∨ year % 400 = 0) := by
  simp [isLeap]

/-- The next year begins after all days of a year. -/
theorem daysBeforeYear_succ (year : Int) :
    daysBeforeYear (year + 1) = daysBeforeYear year + yearLength year := by
  unfold daysBeforeYear yearLength
  split
  · have := isLeap_iff.mp ‹_›
    omega
  · have := mt isLeap_iff.mpr ‹_›
    omega

example : daysBeforeYear 1970 = 0 := by decide

theorem daysBeforeYear_mono {a b : Int} (h : a ≤ b) :
    daysBeforeYear a ≤ daysBeforeYear b := by
  obtain ⟨n, rfl⟩ := Int.le.dest h
  induction n with
  | zero => simp
  | succ n ih =>
    have hnext := daysBeforeYear_succ (a + n)
    have := ih (by omega)
    rw [Int.natCast_succ, ← Int.add_assoc, hnext]
    omega

/-- The next month begins after all days of a month. -/
theorem daysBeforeMonth_succ (year : Int) {month : Nat} (h : 1 ≤ month) :
    daysBeforeMonth year (month + 1)
      = daysBeforeMonth year month + monthLength year month := by
  obtain ⟨m, rfl⟩ := Nat.exists_eq_add_of_le' h
  simp [daysBeforeMonth, List.range_succ]

theorem daysBeforeMonth_mono (year : Int) {a b : Nat} (ha : 1 ≤ a)
    (h : a ≤ b) : daysBeforeMonth year a ≤ daysBeforeMonth year b := by
  induction h with
  | refl => exact Nat.le_refl _
  | @step b hab ih =>
    rw [daysBeforeMonth_succ year (Nat.le_trans ha hab)]
    omega

/-- Where the months from March on begin. -/
theorem daysBeforeMonth_shifted (year : Int) {month : Nat} (h : 3 ≤ month)
    (h' : month ≤ 13) :
    daysBeforeMonth year month
      = (153 * (month - 3) + 2) / 5 + 59 + if isLeap year then 1 else 0 := by
  interval_cases month <;> cases hleap : isLeap year <;>
    simp [daysBeforeMonth, List.range_succ, monthLength, hleap]

/-- After December comes the next year. -/
theorem daysBeforeMonth_all (year : Int) :
    daysBeforeMonth year 13 = yearLength year := by
  rw [daysBeforeMonth_shifted year (by decide) (by decide), yearLength]
  split <;> rfl

/-! ## The order of dates -/

/-- Year, month and day, the largest part first. -/
def fields (d : Date) : List Int := [d.year, d.month, d.day]

theorem Proper.lt_nextMonth {d : Date} (h : d.Proper) :
    daysBeforeMonth d.year d.month + d.day
      ≤ daysBeforeMonth d.year (d.month + 1) := by
  rw [daysBeforeMonth_succ d.year h.month_pos]
  exact Nat.add_le_add_left h.day_le _

/-- A date lies in its year. -/
theorem Proper.inYear {d : Date} (h : d.Proper) :
    daysBeforeYear d.year ≤ d.dayNumber
      ∧ d.dayNumber < daysBeforeYear (d.year + 1) := by
  have hmonth := h.lt_nextMonth
  have hyear := daysBeforeMonth_mono d.year (Nat.le_add_left 1 d.month)
    (Nat.succ_le_succ h.month_le)
  rw [daysBeforeMonth_all] at hyear
  rw [daysBeforeYear_succ, dayNumber]
  have := h.day_pos
  omega

/-- **Later dates have later days.** -/
theorem dayNumber_lt {d e : Date} (hd : d.Proper) (he : e.Proper)
    (h : d.fields < e.fields) : d.dayNumber < e.dayNumber := by
  simp only [fields, List.cons_lt_cons_iff, Int.natCast_inj,
    Int.ofNat_lt] at h
  rcases h with hyear | ⟨hyear, hmonth | ⟨hmonth, hday | ⟨-, hnil⟩⟩⟩
  · have hstart := daysBeforeYear_mono (Int.add_one_le_iff.mpr hyear)
    have := hd.inYear.2
    have := he.inYear.1
    omega
  · have hstart := daysBeforeMonth_mono d.year (Nat.le_add_left 1 d.month)
      (Nat.succ_le_of_lt hmonth)
    have := hd.lt_nextMonth
    have := he.day_pos
    simp only [dayNumber, ← hyear]
    omega
  · simp only [dayNumber, ← hyear, ← hmonth]
    omega
  · cases hnil

/-! ## Days of an era -/

/-- A day of an era of 400 years that begins with March: the centuries, the
spans of four years and the years in front of it, and the days of its year
that are. The last year of a span has a leap day at its end, unless a century
ends there that is not the last. -/
structure EraDay where
  century : Int
  span : Int
  year : Int
  day : Int
  century_mem : 0 ≤ century ∧ century ≤ 3
  span_mem : 0 ≤ span ∧ span ≤ 24
  year_mem : 0 ≤ year ∧ year ≤ 3
  day_mem : 0 ≤ day ∧ day ≤ 365
  leap : day = 365 → year = 3 ∧ (span = 24 → century = 3)

namespace EraDay

variable (e : EraDay)

/-- The days of the era in front of it. -/
def number : Int := 36524 * e.century + 1461 * e.span + 365 * e.year + e.day

/-- The years of the era in front of it. -/
def yearOfEra : Int := 100 * e.century + 4 * e.span + e.year

theorem yearOfEra_mem : 0 ≤ e.yearOfEra ∧ e.yearOfEra < 400 := by
  have := e.century_mem
  have := e.span_mem
  have := e.year_mem
  unfold yearOfEra
  omega

/-- Every day of an era is one. -/
theorem exists_number {n : Int} (low : 0 ≤ n) (high : n < eraLength) :
    ∃ e : EraDay, e.number = n := by
  rw [eraLength] at high
  obtain ⟨a, ha⟩ : ∃ a, a = min 3 (n / 36524) := ⟨_, rfl⟩
  obtain ⟨r, hr⟩ : ∃ r, r = n - 36524 * a := ⟨_, rfl⟩
  have century : 0 ≤ a ∧ a ≤ 3 ∧ 0 ≤ r ∧ r ≤ 36524 ∧ (r = 36524 → a = 3) := by
    omega
  clear ha
  obtain ⟨b, hb⟩ : ∃ b, b = min 24 (r / 1461) := ⟨_, rfl⟩
  obtain ⟨s, hs⟩ : ∃ s, s = r - 1461 * b := ⟨_, rfl⟩
  have span : 0 ≤ b ∧ b ≤ 24 ∧ 0 ≤ s ∧ s ≤ 1460
      ∧ (s = 1460 → b = 24 → r = 36524) := by omega
  clear hb
  obtain ⟨c, hc⟩ : ∃ c, c = min 3 (s / 365) := ⟨_, rfl⟩
  obtain ⟨d, hd⟩ : ∃ d, d = s - 365 * c := ⟨_, rfl⟩
  have year : 0 ≤ c ∧ c ≤ 3 ∧ 0 ≤ d ∧ d ≤ 365
      ∧ (d = 365 → c = 3 ∧ s = 1460) := by omega
  clear hc
  refine ⟨⟨a, b, c, d, by omega, by omega, by omega, by omega, by omega⟩, ?_⟩
  show 36524 * a + 1461 * b + 365 * c + d = n
  omega

theorem days_eq :
    e.number = 365 * e.yearOfEra + e.yearOfEra / 4 - e.yearOfEra / 100
      + e.day := by
  have := e.century_mem
  have := e.span_mem
  have := e.year_mem
  have hspans : e.yearOfEra / 4 = 25 * e.century + e.span := by
    unfold yearOfEra
    omega
  have hcenturies : e.yearOfEra / 100 = e.century := by
    unfold yearOfEra
    omega
  rw [hspans, hcenturies]
  unfold number yearOfEra
  omega

/-- The centuries in front of a day that is not the last of the era. -/
theorem centuries_eq {n a r : Int} (ha : 0 ≤ a ∧ a ≤ 3)
    (hr : 0 ≤ r ∧ r < 36524) (h : n = 36524 * a + r) :
    n / 36524 - n / 146096 = a := by
  have hcentury : n / 36524 = a := by omega
  have hera : n / 146096 = 0 := by omega
  omega

/-- **The years in front of a day.** Without the leap days that were, each
year has 365 days. -/
theorem year_eq :
    (e.number - e.number / 1460 + e.number / 36524 - e.number / 146096) / 365
      = e.yearOfEra := by
  obtain ⟨a, b, c, d, ha, hb, hc, hd, leap⟩ := e
  obtain ⟨n, hn⟩ : ∃ n, n = 36524 * a + 1461 * b + 365 * c + d := ⟨_, rfl⟩
  show (_ - _ / 1460 + _ / 36524 - _ / 146096) / 365 = 100 * a + 4 * b + c
  simp only [number, ← hn]
  have hcenturies : n / 36524 - n / 146096 = a := by
    have hlast : 1461 * b + 365 * c + d < 36524 ∨ a = 3 ∧ n = 146096 := by
      omega
    rcases hlast with hrest | ⟨rfl, rfl⟩
    · exact centuries_eq ha ⟨by omega, hrest⟩ (by omega)
    · rfl
  obtain ⟨k, hk⟩ : ∃ k, k = (24 * a + b + 365 * c + d) / 1460 := ⟨_, rfl⟩
  have hleaps : n / 1460 = 25 * a + b + k := by omega
  have hk' : k = 0 ∧ d ≤ 364 ∨ k = 1 ∧ 1 ≤ d := by omega
  have hsum : n - n / 1460 + n / 36524 - n / 146096
      = 365 * (100 * a + 4 * b + c) + (d - k) := by omega
  rw [hsum]
  clear hk
  omega

end EraDay

/-! ## The date of a day -/

/-- A day in a year that begins with March: so many months and days lie
between. -/
theorem months_eq {d s : Int} (hd : 0 ≤ d ∧ d ≤ 365)
    (h : s = (5 * d + 2) / 153) :
    0 ≤ s ∧ s ≤ 11 ∧ (153 * s + 2) / 5 ≤ d
      ∧ d < (153 * (s + 1) + 2) / 5 := by
  omega

/-- The last year of a span ends with a leap day, if it has 366 days. -/
theorem EraDay.isLeap_next {e : EraDay} (h : e.day = 365) (era : Int) :
    isLeap (e.yearOfEra + era * 400 + 1) = true := by
  have := e.century_mem
  have := e.span_mem
  obtain ⟨hyear, hlast⟩ := e.leap h
  rw [isLeap_iff]
  unfold EraDay.yearOfEra
  omega

/-- **How the date of a day is found.** It lies `s` months and `d` days after
the first of March of the year `y`. -/
theorem ofDays_eq (days : Int) :
    ∃ y s d : Int,
      (0 ≤ s ∧ s ≤ 11) ∧ 0 ≤ d
      ∧ (153 * s + 2) / 5 + d < (153 * (s + 1) + 2) / 5
      ∧ (s = 11 → d ≤ if isLeap (y + 1) then 28 else 27)
      ∧ days + epochOffset
        = 365 * y + y / 4 - y / 100 + y / 400 + (153 * s + 2) / 5 + d
      ∧ ofDays days
        = ⟨if s < 10 then y else y + 1,
          (if s < 10 then s + 3 else s - 9).toNat, (d + 1).toNat⟩ := by
  obtain ⟨z, hz⟩ : ∃ z, z = days + epochOffset := ⟨_, rfl⟩
  obtain ⟨e, he⟩ := EraDay.exists_number (Int.emod_nonneg z (by decide))
    (Int.emod_lt_of_pos z (by decide))
  obtain ⟨s, hs⟩ : ∃ s, s = (5 * e.day + 2) / 153 := ⟨_, rfl⟩
  obtain ⟨hs0, hs11, hlow, hhigh⟩ := months_eq e.day_mem hs
  obtain ⟨y, hy⟩ : ∃ y, y = e.yearOfEra + z / eraLength * 400 := ⟨_, rfl⟩
  have hyear := e.yearOfEra_mem
  have hdays := e.days_eq
  refine ⟨y, s, e.day - (153 * s + 2) / 5, ⟨hs0, hs11⟩, by omega, by omega,
    ?_, ?_, ?_⟩
  · intro hlast
    have := e.day_mem
    split
    · omega
    · rename_i hleap
      have : e.day ≠ 365 := fun h => hleap (hy ▸ EraDay.isLeap_next h _)
      omega
  · have hsplit := Int.mul_ediv_add_emod z eraLength
    rw [← hz, ← hsplit, ← he]
    simp only [eraLength] at hy ⊢
    omega
  · have hofYear : e.number - (365 * e.yearOfEra + e.yearOfEra / 4
        - e.yearOfEra / 100) = e.day := by omega
    simp only [ofDays, ← hz, ← he, EraDay.year_eq, hofYear, ← hs]
    rw [Date.mk.injEq]
    refine ⟨?_, rfl, rfl⟩
    split
    · rw [if_neg (by omega), hy]
      omega
    · rw [if_pos (by omega), hy]

/-- From March to January, months have the length that is counted for
them. -/
theorem monthLength_shifted (year : Int) {s : Int} (hs : 0 ≤ s)
    (hs' : s ≤ 10) :
    (monthLength year (if s < 10 then s + 3 else s - 9).toNat : Int)
      = (153 * (s + 1) + 2) / 5 - (153 * s + 2) / 5 := by
  interval_cases s <;> rfl

/-- **The date of a day exists.** -/
theorem proper_ofDays (days : Int) : (ofDays days).Proper := by
  obtain ⟨y, s, d, ⟨hs, hs'⟩, hd, hmonth, hleap, -, hdate⟩ := ofDays_eq days
  rw [hdate]
  refine ⟨?_, ?_, show 1 ≤ (d + 1).toNat by omega, ?_⟩
  · dsimp only
    split <;> omega
  · dsimp only
    split <;> omega
  · dsimp only
    rcases Int.lt_or_eq_of_le hs' with hbefore | rfl
    · have hlength := monthLength_shifted (if s < 10 then y else y + 1) hs
        (Int.le_sub_one_of_lt hbefore)
      omega
    · have hfebruary := hleap rfl
      show (d + 1).toNat ≤ if isLeap (y + 1) then 29 else 28
      split at hfebruary <;> split <;> omega

/-- The two ways to count days agree. -/
theorem toDays_eq {d : Date} (h : d.Proper) : d.toDays = d.dayNumber := by
  obtain ⟨year, month, day⟩ := d
  obtain ⟨hmonth, hmonth', -, -⟩ := h
  dsimp only at hmonth hmonth'
  simp only [toDays, dayNumber, daysBeforeYear, eraLength, epochOffset]
  by_cases hearly : month ≤ 2
  · have hbefore : daysBeforeMonth year month = 31 * (month - 1) := by
      interval_cases month <;> rfl
    rw [if_pos hearly, if_pos hearly, hbefore]
    omega
  · rw [if_neg hearly, if_neg hearly,
      daysBeforeMonth_shifted year (by omega) (by omega)]
    split
    · have := isLeap_iff.mp ‹_›
      omega
    · have := mt isLeap_iff.mpr ‹_›
      omega

/-- The day of the date of a day. -/
theorem toDays_ofDays (days : Int) : (ofDays days).toDays = days := by
  obtain ⟨y, s, d, ⟨hs, hs'⟩, hd, -, -, hdays, hdate⟩ := ofDays_eq days
  rw [hdate]
  simp only [toDays, eraLength, epochOffset] at hdays ⊢
  by_cases hmonth : s < 10
  · rw [if_pos hmonth, if_pos hmonth, if_neg (by omega), if_neg (by omega)]
    omega
  · rw [if_neg hmonth, if_neg hmonth, if_pos (by omega), if_pos (by omega)]
    omega

/-- **So many days lie in front of the date of a day.** -/
theorem dayNumber_ofDays (days : Int) : (ofDays days).dayNumber = days := by
  rw [← toDays_eq (proper_ofDays days), toDays_ofDays]

end ScriptHost.Date
