/-
ScriptHost.Proofs.Capability.SharedCache — what scripts write to the cache.

What `cache.set` writes is found under its key until it expires. An expiry is
looked at twice: its number of seconds must be a length of time, and then its
end must be a time that the steady clock can show. The first look ends with an
error for the script (`set_outcome`). The second one does not: an expiry that
is a length of time and reaches behind the end of the clock is a panic
(`set_panics`).
-/
import ScriptHost.Capability.SharedCache
import ScriptHost.Proofs.Data.KeyMap
import ScriptHost.Proofs.Script.Action
import ScriptHost.Proofs.Time.Duration

namespace ScriptHost

/-- **What was written is found under its key, until it expires.** -/
theorem Cache.get?_set (c : Cache) (key : String) (value : Json)
    (expiry : Option Nat) (now : Nat) (k : String) :
    (c.set key value expiry).get? now k
      = if key = k then
          if ∃ time ∈ expiry, time ≤ now then none else some value
        else c.get? now k := by
  rw [get?, set, KeyMap.get?_insert]
  by_cases hkey : key = k
  · rw [if_pos hkey, if_pos hkey]
    cases expiry <;> simp [CacheEntry.isExpired]
  · rw [if_neg hkey, if_neg hkey, get?]

namespace CacheFunction

variable {F : Type} {w : World F} {args : List Value} {key : String}
  {value : Json} {seconds : Option Binary64}

open ScriptHost.Action

/-- The arguments are a key, a value and perhaps an expiry that `cache.set`
accepts. -/
structure Accepts (w : World F) (args : List Value) (key : String)
    (value : Json) (seconds : Option Binary64) : Prop where
  host : w.interpreter.host.isSome = true
  key_eq : Argument.text (Argument.nth args 0) = .ok key
  value_eq : w.interpreter.heap.toJson (Argument.nth args 1) = .ok value
  seconds_eq : Argument.optional Argument.float (Argument.nth args 2)
    = .ok seconds
  isSeconds : ∀ x ∈ seconds, Duration.IsSeconds x

/-- The world with a value in its cache, for a lifetime that starts now. -/
def keeping (w : World F) (key : String) (value : Json)
    (lifetime : Option Nat) : World F :=
  let expiry := lifetime.map (w.shared.clock.steady + ·)
  { w with shared.cache := w.shared.cache.set key value expiry }

/-! ## The two looks at an expiry -/

theorem run_lifetime (seconds : Option Binary64) (w : World F) :
    (∃ length, (∀ x ∈ seconds, Duration.IsSeconds x)
        ∧ Option.Rel Duration.IsNearest seconds length
        ∧ (lifetime seconds : Action F _).run.run w = (.ok length, w))
      ∨ ((∃ x ∈ seconds, ¬ Duration.IsSeconds x)
        ∧ (lifetime seconds : Action F _).run.run w
          = (.error (.raised (.complaint .cacheExpiry)), w)) := by
  cases seconds with
  | none => exact .inl ⟨none, by simp, .none, rfl⟩
  | some x =>
    rw [lifetime, run_bind]
    by_cases h : Duration.IsSeconds x
    · obtain ⟨ns, hns, hnearest⟩ := Duration.ofSeconds?_of_isSeconds h
      exact .inl ⟨some ns, by simpa using h, .some hnearest, by rw [hns]; rfl⟩
    · exact .inr ⟨⟨x, rfl, h⟩, by
        rw [Duration.ofSeconds?_of_not_isSeconds h]; rfl⟩

theorem run_expiry (length : Option Nat) (w : World F) :
    (expiry length : Action F _).run.run w
      = (if ∃ ns ∈ length, Clock.limit ≤ w.shared.clock.steady + ns then
          .error .panicked
        else .ok (length.map (w.shared.clock.steady + ·)), w) := by
  cases length with
  | none => rw [if_neg (by simp)]; rfl
  | some ns =>
    rw [expiry, run_bind, run_shared]
    dsimp only
    rw [Clock.after?]
    by_cases hroom : w.shared.clock.steady + ns < Clock.limit
    · rw [if_pos hroom, if_neg (by simpa using hroom)]
      rfl
    · rw [if_neg hroom, if_pos ⟨ns, rfl, Nat.le_of_not_lt hroom⟩]
      rfl

/-! ## What `cache.set` does -/

/-- What it does with arguments that it accepts. -/
theorem Accepts.run_set (h : Accepts w args key value seconds) :
    ∃ lifetime, Option.Rel Duration.IsNearest seconds lifetime
      ∧ (set.run args : Action F (List Value)).run.run w
        = if ∃ ns ∈ lifetime, Clock.limit ≤ w.shared.clock.steady + ns then
            (.error .panicked, w)
          else (.ok [], keeping w key value lifetime) := by
  obtain ⟨context, hhost⟩ := Option.isSome_iff_exists.mp h.host
  rcases run_lifetime seconds w with
    ⟨length, -, hnearest, hlifetime⟩ | ⟨⟨x, hx, hbad⟩, -⟩
  · refine ⟨length, hnearest, ?_⟩
    simp only [run, run_bind, run_argument, h.key_eq, h.seconds_eq, hlifetime,
      run_toJson, h.value_eq, run_host, hhost, run_expiry]
    by_cases hlate : ∃ ns ∈ length, Clock.limit ≤ w.shared.clock.steady + ns
    · rw [if_pos hlate, if_pos hlate]
    · rw [if_neg hlate, if_neg hlate]
      rfl
  · exact absurd (h.isSeconds x hx) hbad

/-- With other arguments it raises an error, and changes nothing. -/
theorem set_raises (h : ¬ ∃ key value seconds, Accepts w args key value seconds) :
    ∃ e, (set.run args : Action F (List Value)).run.run w
      = (.error (.raised e), w) := by
  simp only [run, run_bind, run_argument]
  cases hkey : Argument.text (Argument.nth args 0) with
  | error e => exact ⟨e, rfl⟩
  | ok key =>
    dsimp only
    cases hseconds : Argument.optional Argument.float (Argument.nth args 2) with
    | error e => exact ⟨e, rfl⟩
    | ok seconds =>
      dsimp only
      rcases run_lifetime seconds w with
        ⟨length, hlengths, -, hlifetime⟩ | ⟨-, hlifetime⟩
      · rw [hlifetime]
        dsimp only
        rw [run_toJson]
        cases hvalue : w.interpreter.heap.toJson (Argument.nth args 1) with
        | error e => exact ⟨_, rfl⟩
        | ok value =>
          dsimp only
          rw [run_host]
          cases hhost : w.interpreter.host with
          | none => exact ⟨_, rfl⟩
          | some context =>
            exact absurd ⟨key, value, seconds, by rw [hhost]; rfl, hkey, hvalue,
              hseconds, hlengths⟩ h
      · rw [hlifetime]
        exact ⟨_, rfl⟩

/-- **What `cache.set` does.** Either its arguments are a key, a value and
perhaps an expiry that is finite, not negative and below 2 ^ 64 seconds, and
there is a host. The expiry is then taken to the nearest nanosecond. If it
ends at a time that the clock can show, or there is none, the call returns,
and the value is found under the key until then, and no other key and nothing
else is changed; if it ends behind that, the call panics. Or the call raises an
error. Where it does not return, nothing is changed. -/
theorem set_outcome (args : List Value) (w : World F) :
    let outcome := (set.run args : Action F (List Value)).run.run w
    let now := w.shared.clock.steady
    (∃ key value seconds lifetime, Accepts w args key value seconds
      ∧ Option.Rel Duration.IsNearest seconds lifetime
      ∧ ((∀ ns ∈ lifetime, now + ns < Clock.limit) →
        ∃ cache, outcome = (.ok [], { w with shared.cache := cache })
          ∧ ∀ time k, cache.get? time k
            = if key = k then
                if ∃ ns ∈ lifetime, now + ns ≤ time then none else some value
              else w.shared.cache.get? time k)
      ∧ ((∃ ns ∈ lifetime, Clock.limit ≤ now + ns) →
        outcome = (.error .panicked, w)))
    ∨ (¬ ∃ key value seconds, Accepts w args key value seconds)
      ∧ ∃ e, outcome = (.error (.raised e), w) := by
  intro outcome now
  by_cases h : ∃ key value seconds, Accepts w args key value seconds
  · obtain ⟨key, value, seconds, haccepts⟩ := h
    obtain ⟨lifetime, hnearest, hrun⟩ := haccepts.run_set
    refine .inl ⟨key, value, seconds, lifetime, haccepts, hnearest,
      fun hroom => ⟨(keeping w key value lifetime).shared.cache, ?_,
        fun time k => ?_⟩, fun hlate => ?_⟩
    · exact hrun.trans (if_neg fun ⟨ns, hns, hlate⟩ =>
        Nat.not_lt.mpr hlate (hroom ns hns))
    · refine (Cache.get?_set _ _ _ _ _ _).trans ?_
      simp only [Option.mem_map, exists_exists_and_eq_and, now]
    · exact hrun.trans (if_pos hlate)
  · exact .inr ⟨h, set_raises h⟩

/-- An expiry of one second, whose end the clock can show, and one of less than
none, which is no length of time. -/
theorem set_outcome_second :
    let w : World Empty := ⟨Interpreter.fresh (some {}), {}⟩
    let outcome (seconds : Binary64) :=
      (set.run [.ofText "k", .int 1, .float seconds] :
        Action Empty (List Value)).run.run w
    (∃ cache, outcome .one = (.ok [], { w with shared.cache := cache })
      ∧ cache.get? 1000000999999999 "k" = some (.int 1)
      ∧ cache.get? 1000001000000000 "k" = none)
    ∧ ∃ e, outcome (.ofInt (-1)) = (.error (.raised e), w) := by
  intro w outcome
  have hone : Binary64.one.toRat = 1 := by
    rw [Binary64.toRat, show Binary64.one.significand = (0x10000000000000, -52)
      by decide, show Binary64.one.negative = false by decide]
    norm_num
  have hminus : ¬ 0 ≤ (Binary64.ofInt (-1)).toRat := by
    rw [Binary64.toRat_nonneg_iff]
    decide +kernel
  have accepted : Accepts w [.ofText "k", .int 1, .float .one] "k" (.int 1)
      (some .one) :=
    ⟨rfl, Argument.text_ofText "k", rfl, rfl, by
      rintro _ ⟨⟩
      exact ⟨by decide, by rw [hone]; norm_num, by
        rw [hone]; norm_num [Duration.secondLimit, Word.size64]⟩⟩
  refine ⟨?_, ?_⟩
  · rcases set_outcome [.ofText "k", .int 1, .float .one] w with
      ⟨key, value, seconds, lifetime, h, hnearest, keeps, -⟩ | ⟨h, -⟩
    · obtain rfl : "k" = key :=
        Except.ok.inj ((Argument.text_ofText "k").symm.trans h.key_eq)
      obtain rfl : Json.int 1 = value := Except.ok.inj h.value_eq
      obtain rfl : some .one = seconds := Except.ok.inj h.seconds_eq
      cases hnearest with
      | @some _ ns hclose =>
        obtain rfl := hclose.eq (hone.trans Nat.cast_one.symm)
        obtain ⟨cache, hrun, hget⟩ := keeps (by rintro _ ⟨⟩; decide)
        refine ⟨cache, hrun, ?_, ?_⟩
        · rw [hget, if_pos rfl, if_neg]
          rintro ⟨_, ⟨⟩, hpassed⟩
          exact absurd hpassed (by decide)
        · rw [hget, if_pos rfl, if_pos ⟨_, rfl, by decide⟩]
    · exact absurd ⟨_, _, _, accepted⟩ h
  · rcases set_outcome [.ofText "k", .int 1, .float (.ofInt (-1))] w with
      ⟨key, value, seconds, -, h, -⟩ | ⟨-, hraises⟩
    · obtain rfl : some (.ofInt (-1)) = seconds := Except.ok.inj h.seconds_eq
      exact absurd (h.isSeconds _ rfl).nonneg hminus
    · exact hraises

/-- **An expiry that is accepted, and then is a panic.** Ten to the nineteenth
seconds are a length of time, but the clock ends before. -/
theorem set_panics :
    let w : World Empty := ⟨Interpreter.fresh (some {}), {}⟩
    let x : Binary64 := ⟨0x43e158e460913d00⟩
    let args := [.ofText "k", .int 1, .float x]
    Accepts w args "k" (.int 1) (some x)
      ∧ (set.run args : Action Empty (List Value)).run.run w
        = (.error .panicked, w) := by
  intro w x args
  have hx : x.toRat = 10000000000000000000 := by
    rw [Binary64.toRat, show x.significand = (0x1158e460913d00, 11) by decide,
      show x.negative = false by decide]
    norm_num
  have accepted : Accepts w args "k" (.int 1) (some x) :=
    ⟨rfl, Argument.text_ofText "k", rfl, rfl, by
      rintro _ ⟨⟩
      exact ⟨by decide, by rw [hx]; norm_num, by
        rw [hx]; norm_num [Duration.secondLimit, Word.size64]⟩⟩
  obtain ⟨lifetime, hnearest, hrun⟩ := accepted.run_set
  refine ⟨accepted, hrun.trans (if_pos ?_)⟩
  cases hnearest with
  | some h =>
    exact ⟨_, rfl, Nat.le_add_left_of_le (h.limit_le (by rw [hx]; norm_num))⟩

end CacheFunction

end ScriptHost
