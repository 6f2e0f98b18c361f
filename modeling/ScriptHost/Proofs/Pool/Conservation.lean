/-
ScriptHost.Proofs.Pool.Conservation — where the instances of a pool are.

Every instance that a pool has made is idle, was dropped, or is handed out
and not yet put back. `lent` reads the last ones off what could be seen of
the steps so far; an instance that its holder has destroyed stays among
them, for it was never put back. The invariant `Balanced` counts all of
them, and those that are being made ahead of time as well. It holds in every
order of steps, as long as configuring always ends in the same way: a
warm-up that fails in its midst would lose the instances that it has made.

`run_balanced` is the main statement. Its counts are for the times when no
caller is in the middle of an operation.
-/
import ScriptHost.Proofs.Pool.Deal
import ScriptHost.Proofs.Pool.Exclusive

namespace ScriptHost

/-! ## Operations of a pool -/

namespace Pool

variable {S E : Type} {configure : Except E S}

/-- **What is put back is idle then, or is counted as dropped.** -/
theorem stats_put (p : Pool S) (inst : Instance S) :
    ((p.put inst).idle = inst :: p.idle
        ∧ (p.put inst).stats = { p.stats with idle := p.stats.idle + 1 })
      ∨ ((p.put inst).idle = p.idle
        ∧ (p.put inst).stats
          = { p.stats with dropped := p.stats.dropped + 1 }) := by
  unfold put
  split
  · exact .inr ⟨rfl, rfl⟩
  · exact .inl ⟨rfl, rfl⟩

/-- A pool that cannot hand out an instance is as it was. -/
theorem get_fails (p : Pool S) {e : E}
    (h : (p.get configure).1 = .error e) : (p.get configure).2 = p := by
  unfold get pop? at h ⊢
  cases hidle : p.idle with
  | cons inst rest =>
    rw [hidle] at h
    cases h
  | nil =>
    rw [hidle] at h
    cases configure with
    | ok state => cases h
    | error e => rfl

/-- Where configuring succeeds, every instance is prepared. -/
theorem prepare_ok (state : S) (count : Nat) : ∀ p : Pool S,
    ∃ row, (prepare (.ok state : Except E S) p count).1 = .ok row := by
  induction count with
  | zero => exact fun p => ⟨[], rfl⟩
  | succ n ih =>
    intro p
    obtain ⟨row, hrow⟩ := ih (p.create state).2
    refine ⟨(p.create state).1 :: row, ?_⟩
    show Except.map _ (prepare _ (p.create state).2 n).1 = _
    rw [hrow]
    rfl

/-- A pool that cannot be warmed is as it was. -/
theorem warm_fails (p : Pool S) (count : Nat) {e : E}
    (h : (p.warm configure count).1 = .error e) :
    (p.warm configure count).2 = p := by
  cases configure with
  | error e =>
    cases count with
    | zero => cases h
    | succ n => rfl
  | ok state =>
    obtain ⟨row, hrow⟩ := prepare_ok (E := E) state count p
    rcases hprepare : prepare (.ok state : Except E S) p count with ⟨_, p'⟩
    rw [hprepare] at hrow
    obtain rfl : _ = Except.ok row := hrow
    rw [warm, hprepare] at h
    cases h

end Pool

/-! ## What is handed out -/

/-- The instances that are out, given an event. -/
def Event.settle {C : Type} (out : List Nat) : Event C → List Nat
  | .handedOut _ id => id :: out
  | .takenBack _ id => out.erase id

/-- Where the move configures an instance, this is how it ends. -/
def Move.Configures {C S : Type} (outcome : Option S) : Move C S → Prop
  | .configure _ o => o = outcome
  | _ => True

namespace Crowd

variable {C S E : Type}

/-- The instances that were handed out and not put back since, the latest
first. -/
def lent (events : List (Event C)) : List Nat :=
  events.foldl Event.settle []

/-- Everything that was made is somewhere: idle, dropped, out, or made ahead
of time and on its way into the pool. -/
structure Balanced (k : Crowd C S) (out : List Nat) : Prop where
  exclusive : Exclusive k
  created : k.pool.created = k.pool.idle.length + k.pool.dropped + out.length
    + k.held.countP (·.hold = .fresh)
  nodup : out.Nodup
  below : ∀ id ∈ out, id < k.pool.nextId
  idle : ∀ inst ∈ k.pool.idle, inst.id ∉ out
  held : ∀ p ∈ k.held, p.inst.id ∈ out ↔ p.hold ≠ .fresh

/-! ### Identities -/

theorem mem_of_mem_rest {front back : List (Possession C S)}
    {p q : Possession C S} (h : q ∈ front ++ back) :
    q ∈ front ++ p :: back :=
  ((List.sublist_cons_self p back).append_left front).subset h

section Identities

variable {k : Crowd C S}

theorem Exclusive.idle_held (h : Exclusive k) {inst : Instance S}
    (hinst : inst ∈ k.pool.idle) {p : Possession C S} (hp : p ∈ k.held) :
    inst.id ≠ p.inst.id :=
  (List.nodup_append.mp h.nodup).2.2 _ (List.mem_map.mpr ⟨inst, hinst, rfl⟩)
    _ (List.mem_map.mpr ⟨p, hp, rfl⟩)

theorem Exclusive.held_others (h : Exclusive k)
    {front back : List (Possession C S)} {p : Possession C S}
    (was : k.held = front ++ p :: back) :
    ∀ q ∈ front ++ back, q.inst.id ≠ p.inst.id := by
  have hnodup := (List.nodup_append.mp h.nodup).2.1
  rw [was, List.map_append, List.map_cons, List.nodup_middle,
    ← List.map_append, List.nodup_cons] at hnodup
  exact fun q hq heq => hnodup.1 (List.mem_map.mpr ⟨q, hq, heq⟩)

end Identities

/-! ### Deals -/

section Deals

variable {k k' : Crowd C S} {out : List Nat}

theorem balanced_start (policy : PoolPolicy) :
    Balanced (start policy : Crowd C S) [] :=
  ⟨exclusive_start policy, rfl, .nil, nofun, nofun, nofun⟩

/-- An instance that is not out yet is handed out. -/
theorem Balanced.handOut (h : Balanced k out) (excl : Exclusive k')
    {p : Possession C S} (handed : p.hold ≠ .fresh)
    (held : k'.held = k.held ++ [p]) (inside : p.inst.id ∉ out)
    (older : k.pool.nextId ≤ k'.pool.nextId)
    (idle : ∀ inst ∈ k'.pool.idle, inst ∈ k.pool.idle)
    (count : k'.pool.created + (k.pool.idle.length + k.pool.dropped)
      = k.pool.created + (k'.pool.idle.length + k'.pool.dropped) + 1) :
    Balanced k' (p.inst.id :: out) where
  exclusive := excl
  created := by
    have hcreated := h.created
    rw [held, List.countP_append, List.countP_singleton,
      if_neg (by simpa using handed), List.length_cons]
    omega
  nodup := List.nodup_cons.mpr ⟨inside, h.nodup⟩
  below := by
    have hp : p ∈ k'.held := by simp [held]
    rw [List.forall_mem_cons]
    refine ⟨excl.below _ (List.mem_append_right _
      (List.mem_map.mpr ⟨p, hp, rfl⟩)), fun id hid => ?_⟩
    exact Nat.lt_of_lt_of_le (h.below id hid) older
  idle := by
    intro inst hinst
    have hp : p ∈ k'.held := by simp [held]
    rw [List.mem_cons, not_or]
    exact ⟨excl.idle_held hinst hp, h.idle inst (idle inst hinst)⟩
  held := by
    intro q hq
    rw [held, List.mem_append, List.mem_singleton] at hq
    rcases hq with hq | rfl
    · have hother : q.inst.id ≠ p.inst.id :=
        excl.held_others held q (by simpa using hq)
      rw [List.mem_cons, or_iff_right hother]
      exact h.held q hq
    · simpa using handed

/-- An instance is made ahead of time. -/
theorem Balanced.prepare (h : Balanced k out) (excl : Exclusive k')
    {c : C} {state : S} (pool : k'.pool = (k.pool.create state).2)
    (held : k'.held = k.held ++ [⟨c, (k.pool.create state).1, .fresh⟩]) :
    Balanced k' out where
  exclusive := excl
  created := by
    have hcreated := h.created
    rw [held, List.countP_append, List.countP_singleton, pool]
    simp only [Pool.create, decide_true, if_true]
    omega
  nodup := h.nodup
  below id hid := by
    rw [pool]
    exact Nat.lt_succ_of_lt (h.below id hid)
  idle := by
    rw [pool]
    exact h.idle
  held := by
    intro q hq
    rw [held, List.mem_append, List.mem_singleton] at hq
    rcases hq with hq | rfl
    · exact h.held q hq
    · have hnew : k.pool.nextId ∉ out :=
        fun hmem => Nat.lt_irrefl _ (h.below _ hmem)
      simpa [Pool.create] using hnew

/-- An instance goes to the pool, be it handed out before or new. -/
theorem Balanced.giveBack (h : Balanced k out) (excl : Exclusive k')
    {front back : List (Possession C S)} {p : Possession C S}
    (was : k.held = front ++ p :: back) (held : k'.held = front ++ back)
    (pool : k'.pool = k.pool.put p.inst) :
    Balanced k' (out.erase p.inst.id) where
  exclusive := excl
  created := by
    have hcreated := h.created
    have hmade : (k.pool.put p.inst).created = k.pool.created := by
      unfold Pool.put
      split <;> rfl
    have hput : (k.pool.put p.inst).idle.length + (k.pool.put p.inst).dropped
        = k.pool.idle.length + k.pool.dropped + 1 := by
      rcases k.pool.stats_put p.inst with ⟨-, hstats⟩ | ⟨-, hstats⟩
      all_goals
        have hidle := congrArg PoolStats.idle hstats
        have hdropped := congrArg PoolStats.dropped hstats
        simp only [Pool.stats] at hidle hdropped
        omega
    have hout := h.held p (by simp [was])
    rw [was, List.countP_append, List.countP_cons] at hcreated
    rw [pool, hmade, held, List.countP_append, List.length_erase]
    by_cases hfresh : p.hold = .fresh
    · have hnot : p.inst.id ∉ out := fun hmem => hout.mp hmem hfresh
      simp only [hfresh, decide_true, if_true, hnot, if_false] at hcreated ⊢
      omega
    · have hmem := hout.mpr hfresh
      have hpos := List.length_pos_of_mem hmem
      simp only [hfresh, decide_false, Bool.false_eq_true, if_false, hmem,
        if_true] at hcreated ⊢
      omega
  nodup := h.nodup.erase _
  below id hid := by
    rw [pool, (put_idle k.pool p.inst).2]
    exact h.below id (List.mem_of_mem_erase hid)
  idle := by
    have hnot := h.nodup.not_mem_erase (a := p.inst.id)
    intro inst hinst
    rw [pool] at hinst
    have hold : inst ∈ k.pool.idle → inst.id ∉ out.erase p.inst.id :=
      fun hidle hmem => h.idle inst hidle (List.mem_of_mem_erase hmem)
    rcases k.pool.stats_put p.inst with ⟨hidle, -⟩ | ⟨hidle, -⟩
    · rw [hidle, List.mem_cons] at hinst
      rcases hinst with rfl | hinst
      · exact hnot
      · exact hold hinst
    · exact hold (hidle ▸ hinst)
  held := by
    intro q hq
    rw [held] at hq
    have hother := h.exclusive.held_others was q hq
    rw [List.mem_erase_of_ne hother]
    exact h.held q (was ▸ mem_of_mem_rest hq)

/-- An instance is destroyed by its holder, to whom it stays handed out. -/
theorem Balanced.destroy (h : Balanced k out) (excl : Exclusive k')
    {front back : List (Possession C S)} {p : Possession C S}
    (was : k.held = front ++ p :: back) (held : k'.held = front ++ back)
    (hold : p.hold ≠ .fresh) (pool : k'.pool = k.pool) :
    Balanced k' out where
  exclusive := excl
  created := by
    have hcreated := h.created
    rw [was, List.countP_append, List.countP_cons] at hcreated
    rw [held, List.countP_append, pool]
    simp only [hold, decide_false, Bool.false_eq_true, if_false] at hcreated
    omega
  nodup := h.nodup
  below := by
    rw [pool]
    exact h.below
  idle := by
    rw [pool]
    exact h.idle
  held q hq := by
    rw [held] at hq
    exact h.held q (was ▸ mem_of_mem_rest hq)

/-- What becomes of an instance in the hands of its holder does not
count. -/
theorem Balanced.rehold (h : Balanced k out) (excl : Exclusive k')
    {front back : List (Possession C S)} {p q : Possession C S}
    (was : k.held = front ++ p :: back) (held : k'.held = front ++ q :: back)
    (same : q.inst.id = p.inst.id) (hold : p.hold ≠ .fresh)
    (hold' : q.hold ≠ .fresh) (pool : k'.pool = k.pool) :
    Balanced k' out where
  exclusive := excl
  created := by
    have hcreated := h.created
    rw [was, List.countP_append, List.countP_cons] at hcreated
    rw [held, List.countP_append, List.countP_cons, pool]
    simpa [hold, hold'] using hcreated
  nodup := h.nodup
  below := by
    rw [pool]
    exact h.below
  idle := by
    rw [pool]
    exact h.idle
  held := by
    intro r hr
    have hp := h.held p (by simp [was])
    rw [held, List.mem_append, List.mem_cons] at hr
    rcases hr with hr | rfl | hr
    · exact h.held r (by simp [was, hr])
    · simpa [same, hold'] using hp.mpr hold
    · exact h.held r (by simp [was, hr])

end Deals

/-! ### What callers are at -/

/-- A caller with instances that it has made ahead of time is still at
it. -/
def Busy (k : Crowd C S) : Prop :=
  ∀ p ∈ k.held, p.hold = .fresh → ∃ left, k.activity p.caller = .warming left

/-- Where no instance can be configured, none was made ahead of time. -/
def Sterile (outcome : Option S) (k : Crowd C S) : Prop :=
  outcome = none → ∀ p ∈ k.held, p.hold ≠ .fresh

/-- A caller that is at something else has nothing on its way into the
pool. -/
theorem Busy.not_fresh (h : Busy k) {c : C}
    (other : ∀ left, k.activity c ≠ .warming left) {p : Possession C S}
    (hp : p ∈ k.held) (hc : p.caller = c) : p.hold ≠ .fresh := by
  intro fresh
  obtain ⟨left, hleft⟩ := h p hp fresh
  exact other left (hc ▸ hleft)

theorem Busy.of_held {k' : Crowd C S} (h : Busy k)
    (activity : k'.activity = k.activity)
    (held : ∀ p ∈ k'.held, p.hold = .fresh → p ∈ k.held) : Busy k' := by
  intro p hp fresh
  rw [activity]
  exact h p (held p hp fresh) fresh

theorem Busy.hand (h : Busy k) (pool : Pool S) {p : Possession C S}
    (handed : p.hold ≠ .fresh) : Busy (k.hand pool p) := by
  refine h.of_held rfl fun q hq fresh => ?_
  rcases List.mem_append.mp hq with hq | hq
  · exact hq
  · rw [List.mem_singleton.mp hq] at fresh
    exact absurd fresh handed

/-- All that is kept while configuring always ends in the same way. -/
structure Ledger (outcome : Option S) (k : Crowd C S) (out : List Nat) :
    Prop where
  balanced : Balanced k out
  sterile : Sterile outcome k
  busy : Busy k

theorem ledger_start (outcome : Option S) (policy : PoolPolicy) :
    Ledger outcome (start policy : Crowd C S) [] :=
  ⟨balanced_start policy, fun _ => nofun, nofun⟩

/-- Between operations nothing is on its way into the pool. -/
theorem Ledger.created {outcome : Option S} {k : Crowd C S} {out : List Nat}
    (h : Ledger outcome k out) (between : ∀ c, k.activity c = .free) :
    k.pool.created = k.pool.idle.length + k.pool.dropped + out.length := by
  have hnone : k.held.countP (·.hold = .fresh) = 0 :=
    List.countP_eq_zero.mpr fun p hp => by
      simpa using h.busy.not_fresh (c := p.caller)
        (by simp [between p.caller]) hp rfl
  have hcreated := h.balanced.created
  omega

/-! ### Steps -/

variable [DecidableEq C]

section Steps

variable {k : Crowd C S} {out : List Nat} {outcome : Option S}

/-- What is on its way into the pool after a move was so before, unless the
move has configured it. -/
theorem Deal.fresh_cases {k' : Crowd C S} {m : Move C S}
    {e : Option (Event C)} (deal : Deal k k' m e) {p : Possession C S}
    (hp : p ∈ k'.held) (fresh : p.hold = .fresh) :
    p ∈ k.held ∨ ∃ c state, m = .configure c (some state) := by
  cases deal with
  | still m unused pool held => exact .inl (held ▸ hp)
  | popped c guarded inst rest idle pool held =>
    rw [held, List.mem_append, List.mem_singleton] at hp
    rcases hp with hp | rfl
    · exact .inl hp
    · exact absurd fresh (handedOut_ne_fresh guarded)
  | created c state guarded pool held => exact .inr ⟨c, state, rfl⟩
  | prepared c state pool held => exact .inr ⟨c, state, rfl⟩
  | failed c pool held =>
    rw [held] at hp
    exact .inl (List.mem_of_mem_filter hp)
  | returned m unused front q back was held pool =>
    rw [held] at hp
    exact .inl (was ▸ mem_of_mem_rest hp)
  | discarded c id front q back was held hold pool =>
    rw [held] at hp
    exact .inl (was ▸ mem_of_mem_rest hp)
  | detached c id front q back was held hold pool =>
    rw [held, List.mem_append, List.mem_cons] at hp
    rcases hp with hp | rfl | hp
    · exact .inl (by simp [was, hp])
    · cases fresh
    · exact .inl (by simp [was, hp])
  | used c state front q back ran was held hold pool =>
    rw [held, List.mem_append, List.mem_cons] at hp
    rcases hp with hp | rfl | hp
    · exact .inl (by simp [was, hp])
    · exact absurd fresh hold
    · exact .inl (by simp [was, hp])

theorem sterile_step (h : Sterile outcome k) {m : Move C S}
    (fixed : m.Configures outcome) : Sterile outcome (k.step m).1 := by
  intro hnone p hp fresh
  rcases (step_deal k m).fresh_cases hp fresh with hold | ⟨c, state, rfl⟩
  · exact h hnone p hold fresh
  · cases hnone
    cases fixed

/-- A caller may go on with something else if it has nothing on its way into
the pool. -/
theorem Busy.turn (h : Busy k) {c : C} {activity : Activity}
    (done : ∀ p ∈ k.held, p.caller = c → p.hold ≠ .fresh) :
    Busy (k.turn c activity) := by
  intro p hp fresh
  have hc : p.caller ≠ c := fun hc => done p hp hc fresh
  obtain ⟨left, hleft⟩ := h p hp fresh
  exact ⟨left, (Function.update_of_ne hc _ _).trans hleft⟩

theorem busy_configured (h : Busy k) (c : C) (outcome : Option S) :
    Busy (k.configured c outcome).1 := by
  unfold configured
  cases hat : k.activity c with
  | free => exact h
  | configuring guarded =>
    have done : ∀ p ∈ k.held, p.caller = c → p.hold ≠ .fresh :=
      fun p hp hc => h.not_fresh (by simp [hat]) hp hc
    cases outcome with
    | none => exact h.turn done
    | some state =>
      refine (h.hand _ (handedOut_ne_fresh guarded)).turn fun p hp hc => ?_
      rcases List.mem_append.mp hp with hp | hp
      · exact done p hp hc
      · rw [List.mem_singleton.mp hp]
        exact handedOut_ne_fresh guarded
  | warming left =>
    cases left with
    | zero => cases outcome <;> exact h
    | succ left =>
      cases outcome with
      | none =>
        have hless : Busy { k with
            held := k.held.filter (!·.isFresh c) } :=
          h.of_held rfl fun p hp _ => List.mem_of_mem_filter hp
        refine hless.turn fun p hp hc fresh => ?_
        have hnot := (List.mem_filter.mp hp).2
        simp [Possession.isFresh, hc, fresh] at hnot
      | some state =>
        intro p hp fresh
        by_cases hc : p.caller = c
        · exact ⟨left, by rw [hc]; exact turn_activity _ _ _⟩
        · rcases List.mem_append.mp hp with hp | hp
          · obtain ⟨left', hleft⟩ := h p hp fresh
            exact ⟨left', (Function.update_of_ne hc _ _).trans hleft⟩
          · rw [List.mem_singleton.mp hp] at hc
            exact absurd rfl hc

theorem busy_step (h : Busy k) (m : Move C S) : Busy (k.step m).1 := by
  -- Where the activities stay, only the row of what is held counts.
  have keep : (k.step m).1.activity = k.activity →
      (∀ c outcome, m ≠ .configure c outcome) → Busy (k.step m).1 := by
    refine fun activity other => h.of_held activity fun p hp fresh => ?_
    rcases (step_deal k m).fresh_cases hp fresh with hold | ⟨c, state, rfl⟩
    · exact hold
    · exact absurd rfl (other c (some state))
  cases m with
  | configure c outcome => exact busy_configured h c outcome
  | get c guarded =>
    simp only [step]
    split
    · rename_i free
      unfold lookFor Pool.pop?
      cases k.pool.idle with
      | nil => exact h.turn fun p hp hc => h.not_fresh (by simp [free]) hp hc
      | cons inst rest => exact h.hand _ (handedOut_ne_fresh guarded)
    · exact h
  | put c id | drop c id =>
    refine keep ?_ (by simp)
    simp only [step]
    split
    · exact giveBack_activity k _
    · rfl
  | detach c id | discard c id | use c id state =>
    refine keep ?_ (by simp)
    simp only [step]
    split <;> rfl
  | warm c count =>
    simp only [step]
    split
    · rename_i free
      exact h.turn fun p hp hc => h.not_fresh (by simp [free]) hp hc
    · exact h
  | store c =>
    by_cases hany : k.held.any (·.isFresh c) = true
    · refine keep ?_ (by simp)
      simp only [step, stored, if_pos hany]
      split
      · exact giveBack_activity k _
      · rfl
    · simp only [step, stored, if_neg hany]
      split
      · refine h.turn fun p hp hc fresh => hany ?_
        exact List.any_eq_true.mpr
          ⟨p, hp, by simp [Possession.isFresh, hc, fresh]⟩
      · exact h

/-- **A step keeps the balance.** -/
theorem balanced_step (h : Balanced k out) (sterile : Sterile outcome k)
    {m : Move C S} (fixed : m.Configures outcome) :
    Balanced (k.step m).1 ((k.step m).2.toList.foldl Event.settle out) := by
  have excl := exclusive_effect h.exclusive (step_effect k m)
  have deal := step_deal k m
  revert deal excl
  generalize (k.step m).1 = k'
  generalize (k.step m).2 = e
  intro excl deal
  cases deal with
  | still m unused pool held =>
    obtain ⟨pool', held', activity⟩ := k'
    obtain rfl : pool' = k.pool := pool
    obtain rfl : held' = k.held := held
    exact ⟨excl, h.created, h.nodup, h.below, h.idle, h.held⟩
  | popped c guarded inst rest idle pool held =>
    have hinst : inst ∈ k.pool.idle := by simp [idle]
    refine h.handOut excl (handedOut_ne_fresh guarded) held
      (h.idle inst hinst) (Nat.le_of_eq (by rw [pool]))
      (fun other hother => ?_) ?_
    · rw [pool] at hother
      rw [idle]
      exact List.mem_cons_of_mem _ hother
    · rw [pool, idle]
      simp only [List.length_cons]
      omega
  | created c state guarded pool held =>
    have hnew : k.pool.nextId ∉ out :=
      fun hmem => Nat.lt_irrefl _ (h.below _ hmem)
    refine h.handOut excl (handedOut_ne_fresh guarded) held hnew
      (by rw [pool]; exact Nat.le_succ _) (by rw [pool]; exact fun _ h => h)
      ?_
    rw [pool]
    simp only [Pool.create]
    omega
  | prepared c state pool held => exact h.prepare excl pool held
  | failed c pool held =>
    have hall : k.held.filter (!·.isFresh c) = k.held :=
      List.filter_eq_self.mpr fun p hp => by
        simp [Possession.isFresh, sterile fixed.symm p hp]
    obtain ⟨pool', held', activity⟩ := k'
    obtain rfl : pool' = k.pool := pool
    obtain rfl : held' = k.held := held.trans hall
    exact ⟨excl, h.created, h.nodup, h.below, h.idle, h.held⟩
  | returned m unused front p back was held pool =>
    exact h.giveBack excl was held pool
  | discarded c id front p back was held hold pool =>
    exact h.destroy excl was held (by simp [hold]) pool
  | detached c id front p back was held hold pool =>
    exact h.rehold excl was held rfl (by simp [hold])
      (fun fresh => by cases fresh) pool
  | used c state front p back ran was held hold pool =>
    exact h.rehold excl was held rfl hold hold pool

end Steps

/-! ### Runs -/

theorem ledger_run {outcome : Option S} (moves : List (Move C S)) :
    ∀ {k : Crowd C S} {out : List Nat}, Ledger outcome k out →
      (∀ m ∈ moves, m.Configures outcome) →
      Ledger outcome (k.run moves).1
        ((k.run moves).2.foldl Event.settle out) := by
  induction moves with
  | nil => exact fun h _ => h
  | cons m rest ih =>
    intro k out h fixed
    obtain ⟨hm, hrest⟩ := List.forall_mem_cons.mp fixed
    rw [run_cons, List.foldl_append]
    exact ih ⟨balanced_step h.balanced h.sterile hm,
      sterile_step h.sterile hm, busy_step h.busy m⟩ hrest

/-- What is taken back is idle then, or is counted as dropped. -/
theorem stats_takenBack {k : Crowd C S} {m : Move C S} {c : C} {id : Nat}
    (h : (k.step m).2 = some (.takenBack c id)) :
    (∃ inst, inst.id = id ∧ (k.step m).1.pool.idle = inst :: k.pool.idle
        ∧ (k.step m).1.pool.stats
          = { k.pool.stats with idle := k.pool.stats.idle + 1 })
      ∨ ((k.step m).1.pool.idle = k.pool.idle
        ∧ (k.step m).1.pool.stats
          = { k.pool.stats with dropped := k.pool.stats.dropped + 1 }) := by
  have deal := step_deal k m
  rw [h] at deal
  generalize (k.step m).1 = k' at deal ⊢
  cases deal with
  | returned m unused front p back was held pool =>
    rw [pool]
    exact (k.pool.stats_put p.inst).imp_left fun hput => ⟨p.inst, rfl, hput⟩

/-- Where configuring fails, a step in which nothing is handed out or taken
back leaves the pool alone. -/
theorem pool_of_failing {k : Crowd C S} {m : Move C S}
    (fails : m.Configures none) (unseen : (k.step m).2 = none) :
    (k.step m).1.pool = k.pool := by
  have deal := step_deal k m
  rw [unseen] at deal
  generalize (k.step m).1 = k' at deal ⊢
  cases deal with
  | prepared c state pool held => cases fails
  | still m unused pool held => exact pool
  | failed c pool held => exact pool
  | discarded c id front p back was held hold pool => exact pool
  | detached c id front p back was held hold pool => exact pool
  | used c state front p back ran was held hold pool => exact pool

/-- **No instance is lost count of.** Whatever the policy, and in whatever
order the callers of a new pool have made their steps, as long as
configuring always ends in the same way: between operations, the instances
that were created are the idle ones, the dropped ones, and those that are
handed out and not yet put back, be they detached or destroyed. Every put
makes just one more instance idle, or counts one more as dropped. And where
configuring fails, it changes nothing in the pool, neither as an operation
that nobody interrupts nor as one among those of others. -/
theorem run_balanced (policy : PoolPolicy) (configure : Except E S)
    (moves : List (Move C S))
    (fixed : ∀ m ∈ moves, m.Configures configure.toOption) :
    let (k, events) := (start policy : Crowd C S).run moves
    ((∀ c, k.activity c = .free) →
        k.pool.stats.created = k.pool.stats.idle + k.pool.stats.dropped
          + (lent events).length)
      ∧ ((lent events).Nodup
        ∧ ∀ p ∈ k.held, p.hold ≠ .fresh → p.inst.id ∈ lent events)
      ∧ (∀ m c id, (k.step m).2 = some (.takenBack c id) →
        (∃ inst, inst.id = id ∧ (k.step m).1.pool.idle = inst :: k.pool.idle
            ∧ (k.step m).1.pool.stats
              = { k.pool.stats with idle := k.pool.stats.idle + 1 })
          ∨ ((k.step m).1.pool.idle = k.pool.idle
            ∧ (k.step m).1.pool.stats
              = { k.pool.stats with dropped := k.pool.stats.dropped + 1 }))
      ∧ (∀ e, (k.pool.get configure).1 = .error e →
        (k.pool.get configure).2 = k.pool)
      ∧ (∀ count e, (k.pool.warm configure count).1 = .error e →
        (k.pool.warm configure count).2 = k.pool)
      ∧ (configure.toOption = none → ∀ m, m.Configures none →
        (k.step m).2 = none → (k.step m).1.pool = k.pool) := by
  have h := ledger_run moves (ledger_start configure.toOption policy) fixed
  refine ⟨h.created, ⟨h.balanced.nodup, fun p hp =>
    (h.balanced.held p hp).mpr⟩, fun m c id => stats_takenBack, ?_, ?_, ?_⟩
  · exact fun e => Pool.get_fails _
  · exact fun count e => Pool.warm_fails _ count
  · exact fun _ m fails unseen => pool_of_failing fails unseen

/-- Two callers at a pool that keeps one idle instance: the first one is put
back to a pool that is full, the second one stays out, and the one that was
made ahead of time is detached. -/
def exchanging : List (Move Bool Unit) :=
  [.get false true, .configure false (some ()), .get true false,
    .configure true (some ()), .warm true 1, .configure true (some ()),
    .store true, .drop false 1, .store true, .get false true,
    .detach false 3]

theorem run_exchanging :
    let (k, events) :=
      (start { maxIdle := some 1 } : Crowd Bool Unit).run exchanging
    k.pool.stats = { created := 3, idle := 0, dropped := 1 }
      ∧ lent events = [3, 2]
      ∧ k.pool.stats.created = k.pool.stats.idle + k.pool.stats.dropped
        + (lent events).length :=
  ⟨rfl, rfl, (run_balanced { maxIdle := some 1 }
    (.ok () : Except Empty Unit) exchanging
    (by simp [exchanging, Move.Configures, Except.toOption])).1
    (by decide)⟩

end Crowd

end ScriptHost
