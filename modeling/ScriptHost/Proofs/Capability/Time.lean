/-
ScriptHost.Proofs.Capability.Time — points and lengths of time in scripts.

`time.parseUnix` breaks any number of seconds down that lies in the years
that dates are kept for, and complains about all others. `time.parseDuration`
reads the texts that are lengths of time, and complains about all others.
-/
import ScriptHost.Capability.Time
import ScriptHost.Proofs.Config.View
import ScriptHost.Proofs.Script.Action
import ScriptHost.Proofs.Script.Alike
import ScriptHost.Proofs.Time.Duration
import ScriptHost.Proofs.Time.Instant

namespace ScriptHost

variable {F : Type}

open ScriptHost.Action

/-- An integer is taken as it was passed. -/
theorem Action.run_argument_int64 (t : Int64) (others : List Value)
    (w : World F) :
    (argument (Argument.integer Argument.int64) (.int t :: others) 0).run.run w
      = (.ok t.toInt, w) := by
  have hlow : Word.minSigned ≤ t.toInt := t.le_toInt
  have hhigh : t.toInt ≤ Word.maxSigned := Int.le_of_lt_add_one t.toInt_lt
  have hread : Argument.integer Argument.int64 (.int t) = .ok t.toInt := by
    simp [Argument.integer, Argument.number?, ScriptNumber.truncate?,
      Argument.int64, hlow, hhigh]
  rw [run_argument, show Argument.nth (.int t :: others) 0 = .int t from rfl,
    hread]

/-! ## Points in time in tables -/

/-- A table shows a point in time: its parts as integers, and the names of its
day and of all of it as texts. -/
structure Instant.ShownIn (i : Instant) (h : Heap) (v : Value) : Prop where
  year : h.rawGet v (.ofText "year") = .ofInt i.date.year
  month : h.rawGet v (.ofText "month") = .ofInt i.date.month
  day : h.rawGet v (.ofText "day") = .ofInt i.date.day
  hour : h.rawGet v (.ofText "hour") = .ofInt i.hour
  minute : h.rawGet v (.ofText "minute") = .ofInt i.minute
  second : h.rawGet v (.ofText "second") = .ofInt i.second
  weekday : h.rawGet v (.ofText "weekday") = .ofText i.weekday
  result : h.rawGet v (.ofText "result") = .ofText i.text

namespace Heap

variable {h : Heap} {v : Value}

theorem Holds.eq_ofInt {n : Int} (hv : h.Holds v (.int n)) : v = .ofInt n := by
  obtain ⟨_, rfl, -⟩ := hv
  rfl

theorem Holds.eq_ofText {s : String} (hv : h.Holds v (.str s)) :
    v = .ofText s := by
  obtain ⟨_, rfl, -⟩ := hv
  rfl

/-- Under each name stands the value of its pair. -/
theorem Holds.pairs {pairs : List (String × Json)}
    (hv : h.Holds v (.ofPairs pairs)) (distinct : (pairs.map Prod.fst).Nodup)
    (ordered : ∀ f ∈ pairs, f.2.Ordered) :
    ∀ f ∈ pairs, h.Holds (h.rawGet v (.ofText f.1)) f.2 := by
  intro f hf
  have hfield := hv.field (Json.ordered_ofPairs ordered) f.1
  rwa [Json.field?_ofPairs distinct hf] at hfield

end Heap

theorem Instant.shownIn_ofJson (i : Instant) (h : Heap) :
    i.ShownIn (h.ofJson i.toJson).2 (h.ofJson i.toJson).1 := by
  have hv := Heap.holds_ofJson h i.toJson
  have parts := hv.pairs (by simp) (by simp [Json.Ordered])
  simp only [List.forall_mem_cons] at parts
  obtain ⟨year, month, day, hour, minute, second, weekday, result, -⟩ := parts
  exact ⟨year.eq_ofInt, month.eq_ofInt, day.eq_ofInt, hour.eq_ofInt,
    minute.eq_ofInt, second.eq_ofInt, weekday.eq_ofText, result.eq_ofText⟩

namespace TimeFunction

theorem run_parseUnix (t : Int64) (others : List Value) (w : World F) :
    (parseUnix.run (.int t :: others) : Action F (List Value)).run.run w
      = match Instant.ofUnix? t.toInt with
        | some i => (.ok [(w.interpreter.heap.ofJson i.toJson).1],
          { w with
            interpreter.heap := (w.interpreter.heap.ofJson i.toJson).2 })
        | none => (.error (.raised (.complaint (.timestamp t.toInt))), w) := by
  rw [run, run_bind, run_argument_int64]
  dsimp only
  cases Instant.ofUnix? t.toInt with
  | none => rfl
  | some i =>
    rw [run_bind, run_ofJson]
    rfl

theorem run_parseDuration (text : String) (w : World F) :
    (parseDuration.run [.ofText text] : Action F (List Value)).run.run w
      = match Duration.read text with
        | .ok seconds => (.ok [.float seconds], w)
        | .error e => (refuse text e : Action F (List Value)).run.run w := by
  rw [run, run_bind, run_argument_text]
  dsimp only
  cases Duration.read text <;> rfl

/-- **Which texts `time.parseDuration` reads.** It returns a number exactly for
lengths of time: at most one sign, and then a zero alone or one or more
numbers, each with its unit. The number is the sum of all of them, with the
sign. Each number is the whole stretch of digits and points at its place, and
each unit all that stands between two numbers. Any other text leads to a
complaint. The text is never cut inside a character, and each round takes
characters off its front. -/
theorem parseDuration_reads (text : String) (w : World F) :
    let outcome :=
      (parseDuration.run [.ofText text] : Action F (List Value)).run.run w
    ((∃ x, outcome = (.ok [.float x], w)) ↔ Duration.IsLength text.toList)
    ∧ (∀ sign ∈ Duration.signs, ∀ groups : List Duration.Group, groups ≠ [] →
      text.toList = sign ++ groups.flatMap Duration.Group.chars →
      outcome = (.ok [.float (Duration.signed sign
          (Duration.total .zero groups))], w)
        ∧ ∀ before g after, groups = before ++ g :: after →
          Duration.IsRun Duration.isNumberChar
              (sign ++ before.flatMap Duration.Group.chars) g.number
              (g.unit ++ after.flatMap Duration.Group.chars)
            ∧ Duration.IsRun (fun c => !Duration.isNumberChar c)
              (sign ++ before.flatMap Duration.Group.chars ++ g.number) g.unit
              (after.flatMap Duration.Group.chars))
    ∧ (¬ Duration.IsLength text.toList →
      outcome = (.error (.raised (.complaint (.duration text))), w))
    ∧ Duration.read text ≠ .error .split
    ∧ ∀ cs x rest, Duration.readGroup cs = .ok (x, rest) →
      ∃ front, front ≠ [] ∧ cs = front ++ rest := by
  intro outcome
  have hrun : outcome = _ := run_parseDuration text w
  refine ⟨?_, fun sign hsign groups hne htext => ⟨?_, ?_⟩, fun hother => ?_,
    Duration.read_ne_split text, fun cs x rest hread => ?_⟩
  · rw [← Duration.read_isOk_iff, hrun]
    constructor
    · rintro ⟨x, hx⟩
      cases hread : Duration.read text with
      | ok x => exact ⟨x, rfl⟩
      | error e =>
        rw [hread] at hx
        cases e <;> cases congrArg Prod.fst hx
    · rintro ⟨x, hx⟩
      exact ⟨x, by rw [hx]⟩
  · rw [hrun, Duration.read, htext, Duration.readChars_groups hsign hne]
  · rintro before g after -
    exact ⟨Duration.isRun_number hsign, Duration.isRun_unit⟩
  · rw [hrun, Duration.read_of_not_isLength hother]
    rfl
  · obtain ⟨g, hcs, -⟩ := Duration.exists_group hread
    exact ⟨g.chars, g.chars_ne_nil, hcs⟩

/-- An hour and a half with a sign, a unit of two bytes in its first
character, and a number with two points. -/
theorem parseDuration_mixed :
    let w : World Empty := ⟨Interpreter.fresh none, {}⟩
    let outcome (text : String) :=
      (parseDuration.run [.ofText text] : Action Empty (List Value)).run.run w
    outcome "-1h30m" = (.ok [.float (.ofInt (-5400))], w)
      ∧ (∃ x, outcome "1.5\u00b5s" = (.ok [.float x], w))
      ∧ outcome "1..5s"
        = (.error (.raised (.complaint (.duration "1..5s"))), w) := by
  intro w outcome
  let hour : Duration.Group :=
    ⟨['1'], ['h'], Duration.isNumber_of_plainDecimal? rfl, by decide⟩
  let half : Duration.Group :=
    ⟨['3', '0'], ['m'], Duration.isNumber_of_plainDecimal? rfl, by decide⟩
  let micro : Duration.Group := ⟨['1', '.', '5'], ['\u00b5', 's'],
    Duration.isNumber_of_plainDecimal? rfl, by decide⟩
  have hvalue : Duration.signed ['-'] (Duration.total .zero [hour, half])
      = .ofInt (-5400) := by decide +kernel
  have hlength : Duration.IsLength "1.5\u00b5s".toList :=
    ⟨[], by decide, _, rfl, .inr ⟨[micro], by simp, by decide⟩⟩
  have hother : ¬ Duration.IsLength "1..5s".toList := by
    rw [← Duration.read_isOk_iff]
    rintro ⟨x, hx⟩
    have hgroup : Duration.readGroup "1..5s".toList = .error .malformed := rfl
    change (Duration.readGroups .zero "1..5s".toList).map _ = _ at hx
    rw [Duration.readGroups_error (by decide) hgroup] at hx
    cases hx
  have hfirst := ((parseDuration_reads "-1h30m" w).2.1 ['-'] (by decide)
    [hour, half] (by simp) (by decide)).1
  rw [hvalue] at hfirst
  exact ⟨hfirst, (parseDuration_reads _ w).1.mpr hlength,
    (parseDuration_reads _ w).2.2.1 hother⟩

end TimeFunction

end ScriptHost
