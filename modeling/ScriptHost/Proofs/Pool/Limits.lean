/-
ScriptHost.Proofs.Pool.Limits — how many instances wait, and how worn they
are.

A pool takes an instance back in two steps. It looks at the uses of the
instance without its lock, and under the lock whether there is room. A
`Rush` is a crowd in which the others may come between the two: an instance
that is not worn arrives, and enters the pool later, or finds it full. A
list of `Turn`s is one order of all such steps.

What was seen of the turns so far says which instance has run what, and when
it was handed out. The invariant `Kept` holds the pool against it: the row of
the idle instances has room, nothing that is idle or arriving is worn, and
the uses of an instance are the runs that were seen of it. `run_limits` is
the main statement.
-/
import ScriptHost.Proofs.Pool.Deal
import ScriptHost.Proofs.Pool.Exclusive

namespace ScriptHost

/-! ## A pool takes an instance back -/

namespace Pool

variable {S : Type}

/-- An instance is not kept. -/
def discard (p : Pool S) : Pool S := { p with dropped := p.dropped + 1 }

/-- An instance is kept, if there is room. -/
def enter (p : Pool S) (inst : Instance S) : Pool S :=
  if p.isFull then p.discard else { p with idle := inst :: p.idle }

theorem put_eq (p : Pool S) (inst : Instance S) :
    p.put inst
      = if isWorn p.policy inst then p.discard else p.enter inst := by
  unfold put enter discard
  cases isWorn p.policy inst <;> simp

/-- The idle instances are no more than the policy allows, and not worn. -/
structure Within (policy : PoolPolicy) (p : Pool S) : Prop where
  same : p.policy = policy
  room : ∀ most, policy.maxIdle = some most → p.idle.length ≤ most
  unworn : ∀ inst ∈ p.idle, isWorn policy inst = false

variable {policy : PoolPolicy} {p : Pool S}

theorem isWorn_eq_false {most : Nat} {inst : Instance S}
    (limit : policy.maxUses = some most) :
    isWorn policy inst = false ↔ inst.uses < most := by
  simp [isWorn, limit]

theorem Within.discard (h : Within policy p) : Within policy p.discard :=
  ⟨h.same, h.room, h.unworn⟩

theorem Within.create (h : Within policy p) (state : S) :
    Within policy (p.create state).2 :=
  ⟨h.same, h.room, h.unworn⟩

theorem Within.rest (h : Within policy p) {inst : Instance S}
    {rest : List (Instance S)} (idle : p.idle = inst :: rest) :
    Within policy { p with idle := rest } where
  same := h.same
  room most limit := by
    have hroom := h.room most limit
    rw [idle, List.length_cons] at hroom
    exact Nat.le_of_succ_le hroom
  unworn other hother :=
    h.unworn other (idle ▸ List.mem_cons_of_mem _ hother)

/-- Room is looked for where the instance enters. -/
theorem Within.enter (h : Within policy p) {inst : Instance S}
    (unworn : isWorn policy inst = false) : Within policy (p.enter inst) := by
  unfold Pool.enter
  split
  · exact h.discard
  · rename_i hroom
    refine ⟨h.same, fun most limit => ?_, List.forall_mem_cons.mpr
      ⟨unworn, h.unworn⟩⟩
    have hroom : p.idle.length < most := by
      simpa [isFull, h.same, limit] using hroom
    exact Nat.succ_le_of_lt hroom

theorem Within.put (h : Within policy p) (inst : Instance S) :
    Within policy (p.put inst) := by
  rw [put_eq]
  split
  · exact h.discard
  · rename_i unworn
    exact h.enter (by simpa [h.same] using unworn)

/-- The pool keeps an instance that enters, or does not. -/
theorem enter_idle (p : Pool S) (inst : Instance S) :
    ((p.enter inst).idle = inst :: p.idle ∨ (p.enter inst).idle = p.idle)
      ∧ (p.enter inst).nextId = p.nextId := by
  unfold Pool.enter
  split
  · exact ⟨.inr rfl, rfl⟩
  · exact ⟨.inl rfl, rfl⟩

end Pool

/-! ## A rush -/

/-- A crowd in which an instance may be on its way back. -/
structure Rush (C S : Type) where
  crowd : Crowd C S
  /-- Those that were not worn and have not entered the pool yet. -/
  arriving : List (Instance S) := []

/-- One step of one caller. -/
inductive Turn (C S : Type) where
  /-- A step of the crowd. -/
  | whole (m : Move C S)
  /-- The first half of a move that gives an instance back. -/
  | inspect (m : Move C S)
  /-- The second half, for this instance. -/
  | enter (id : Nat)

/-- What can be seen of a turn. -/
inductive Sight (C : Type) where
  | event (e : Event C)
  | ran (id : Nat)
  deriving DecidableEq, Repr

namespace Sight

variable {C : Type}

/-- The instance that has run something. -/
def ran? : Sight C → Option Nat
  | .ran id => some id
  | .event _ => none

/-- How often the instance has run something. -/
def runs (id : Nat) (sights : List (Sight C)) : Nat :=
  (sights.filterMap ran?).count id

/-- Has the instance run something since it was handed out last? -/
def spend (id : Nat) (spent : Bool) : Sight C → Bool
  | .ran other => spent || other = id
  | .event (.handedOut _ other) => spent && other ≠ id
  | .event (.takenBack _ _) => spent

def spent (id : Nat) (sights : List (Sight C)) : Bool :=
  sights.foldl (spend id) false

/-- Whoever runs something is the first to do so since the instance was
handed out. -/
def Single (sights : List (Sight C)) : Prop :=
  ∀ i, (h : i < sights.length) → ∀ id ∈ sights[i].ran?,
    spent id (sights.take i) = false

instance (sights : List (Sight C)) : Decidable (Single sights) :=
  inferInstanceAs (Decidable (∀ i, (h : i < sights.length) →
    ∀ id ∈ sights[i].ran?, spent id (sights.take i) = false))

theorem runs_append (id : Nat) (sights more : List (Sight C)) :
    runs id (sights ++ more) = runs id sights + runs id more := by
  rw [runs, List.filterMap_append, List.count_append]
  rfl

theorem spent_append (id : Nat) (sights more : List (Sight C)) :
    spent id (sights ++ more) = more.foldl (spend id) (spent id sights) :=
  List.foldl_append

theorem Single.of_append {sights more : List (Sight C)}
    (h : Single (sights ++ more)) : Single sights := by
  intro i hi id hid
  have hlt : i < (sights ++ more).length := by
    rw [List.length_append]
    omega
  rw [← List.take_append_of_le_length (Nat.le_of_lt hi)]
  refine h i hlt id ?_
  rwa [List.getElem_append_left hi]

/-- The last one to run something was the first to do so. -/
theorem Single.unspent {sights : List (Sight C)} {id : Nat}
    (h : Single (sights ++ [.ran id])) : spent id sights = false := by
  have hlast := h sights.length (by simp) id (by simp [ran?])
  rwa [List.take_left] at hlast

/-- What is seen of a run, and nothing else. -/
theorem runs_ran (id : Nat) :
    runs id [(.ran id : Sight C)] = 1 := by
  simp [runs, ran?]

theorem runs_ran_of_ne {id other : Nat} (h : other ≠ id) :
    runs other [(.ran id : Sight C)] = 0 := by
  simp [runs, ran?, h.symm]

end Sight

namespace Crowd

variable {C S : Type}

/-- What is pulled out was held, and passes the test. -/
theorem pull?_split {k k' : Crowd C S} {test : Possession C S → Bool}
    {p : Possession C S} (h : k.pull? test = some (p, k')) :
    test p = true ∧ ∃ front back, k.held = front ++ p :: back
      ∧ k'.held = front ++ back ∧ k'.pool = k.pool := by
  unfold pull? at h
  cases hfind : k.held.find? test with
  | none =>
    rw [hfind] at h
    cases h
  | some q =>
    rw [hfind] at h
    obtain ⟨rfl, rfl⟩ := h
    obtain ⟨front, back, hrow, herase⟩ := find?_eraseP hfind
    exact ⟨List.find?_some hfind, front, back, hrow, herase, rfl⟩

theorem giveBack_pull {k k' : Crowd C S} {test : Possession C S → Bool}
    {p : Possession C S} (h : k.pull? test = some (p, k')) :
    (k.giveBack test).1 = { k' with pool := k'.pool.put p.inst } := by
  rw [giveBack, h]

variable [DecidableEq C]

/-- What a move gives back, and the crowd without it. -/
def offered? (k : Crowd C S) :
    Move C S → Option (Possession C S × Crowd C S)
  | .put c id =>
    if k.activity c = .free then k.pull? (·.isHeld c .owned id) else none
  | .drop c id =>
    if k.activity c = .free then k.pull? (·.isHeld c .guarded id) else none
  | .store c =>
    if k.activity c = .warming 0 then k.pull? (·.isFresh c) else none
  | _ => none

/-- The move gives back what it offers. -/
theorem step_offered {k k' : Crowd C S} {m : Move C S}
    {p : Possession C S} (h : k.offered? m = some (p, k')) :
    (∃ front back, k.held = front ++ p :: back ∧ k'.held = front ++ back
        ∧ k'.pool = k.pool)
      ∧ (k.step m).1 = { k' with pool := k'.pool.put p.inst } := by
  unfold offered? at h
  cases m
  case put | drop =>
    dsimp only at h
    split at h
    · rename_i free
      refine ⟨(pull?_split h).2, ?_⟩
      simp only [step, if_pos free]
      exact giveBack_pull h
    · cases h
  case store c =>
    dsimp only at h
    split at h
    · rename_i warming
      obtain ⟨fresh, front, back, was, rest⟩ := pull?_split h
      have hany : k.held.any (·.isFresh c) = true :=
        List.any_eq_true.mpr ⟨p, by simp [was], fresh⟩
      refine ⟨⟨front, back, was, rest⟩, ?_⟩
      simp only [step, if_pos warming, stored, if_pos hany]
      exact giveBack_pull h
    · cases h
  all_goals cases h

/-- What can be seen of a step of the crowd, given its event. -/
def sights (k : Crowd C S) (m : Move C S) (e : Option (Event C)) :
    List (Sight C) :=
  ((k.ran? m).map .ran).toList ++ (e.map .event).toList

end Crowd

namespace Rush

variable {C S : Type}

/-- A new pool, at which nobody has done anything yet. -/
def start (policy : PoolPolicy) : Rush C S := { crowd := .start policy }

/-- All instances that are held, idle or arriving. -/
def insts (r : Rush C S) : List (Instance S) :=
  r.crowd.held.map Possession.inst ++ (r.crowd.pool.idle ++ r.arriving)

/-- What is held may as well stand first. -/
theorem held_perm (front : List (Possession C S)) (p : Possession C S)
    (back : List (Possession C S)) (others : List (Instance S)) :
    ((front ++ p :: back).map Possession.inst ++ others).Perm
      (p.inst :: ((front ++ back).map Possession.inst ++ others)) := by
  simp only [List.map_append, List.map_cons, List.append_assoc,
    List.cons_append]
  exact List.perm_middle

/-- One more is held. -/
theorem insts_more {r r' : Rush C S} {p : Possession C S}
    (held : r'.crowd.held = r.crowd.held ++ [p])
    (idle : r'.crowd.pool.idle = r.crowd.pool.idle)
    (arriving : r'.arriving = r.arriving) :
    r'.insts.Perm (p.inst :: r.insts) := by
  rw [insts, insts, held, idle, arriving]
  simp only [List.map_append, List.map_cons, List.map_nil,
    List.append_assoc, List.cons_append, List.nil_append]
  exact List.perm_middle

/-- An instance that was given back arrives, unless it is worn. -/
def inspect (r : Rush C S) (p : Possession C S) (k : Crowd C S) :
    Rush C S :=
  if Pool.isWorn k.pool.policy p.inst then
    { r with crowd := { k with pool := k.pool.discard } }
  else { crowd := k, arriving := p.inst :: r.arriving }

/-! ### What is kept -/

/-- The pool keeps to its policy, and nothing that arrives is worn. -/
structure Within (policy : PoolPolicy) (r : Rush C S) : Prop where
  pool : r.crowd.pool.Within policy
  arriving : ∀ inst ∈ r.arriving, Pool.isWorn policy inst = false

/-- Every instance is in one place, and its uses are the runs that were seen
of it. -/
structure Counted (past : List (Sight C)) (r : Rush C S) : Prop where
  nodup : (r.insts.map Instance.id).Nodup
  made : ∀ inst ∈ r.insts, inst.id < r.crowd.pool.nextId
  unmade : ∀ id, r.crowd.pool.nextId ≤ id → Sight.runs id past = 0
  uses : ∀ inst ∈ r.insts, inst.uses = Sight.runs inst.id past

/-- No instance has run more than that often, and those that are held may
run once more since they were handed out. -/
structure Thrifty (most : Nat) (past : List (Sight C)) (r : Rush C S) :
    Prop where
  held : ∀ p ∈ r.crowd.held, Sight.spent p.inst.id past = false →
    p.inst.uses < most
  runs : ∀ id, Sight.runs id past ≤ most

section Counted

variable {r r' : Rush C S} {past now : List (Sight C)}

theorem runs_same (runs : ∀ id, Sight.runs id now = 0) (id : Nat) :
    Sight.runs id (past ++ now) = Sight.runs id past := by
  rw [Sight.runs_append, runs, Nat.add_zero]

/-- Nothing has run, and no instance is new. -/
theorem Counted.less (h : Counted past r) (less : r'.insts.Subperm r.insts)
    (next : r'.crowd.pool.nextId = r.crowd.pool.nextId)
    (runs : ∀ id, Sight.runs id now = 0) : Counted (past ++ now) r' where
  nodup := by
    obtain ⟨row, hrow, hle⟩ := less
    exact (hrow.map Instance.id).nodup ((hle.map _).nodup h.nodup)
  made inst hinst := next ▸ h.made inst (less.subset hinst)
  unmade id hid := by
    rw [runs_same runs]
    exact h.unmade id (next ▸ hid)
  uses inst hinst := by
    rw [runs_same runs]
    exact h.uses inst (less.subset hinst)

/-- Nothing has run, and one instance is new. -/
theorem Counted.create (h : Counted past r) {state : S}
    (more : r'.insts.Perm ((r.crowd.pool.create state).1 :: r.insts))
    (next : r'.crowd.pool.nextId = r.crowd.pool.nextId + 1)
    (runs : ∀ id, Sight.runs id now = 0) : Counted (past ++ now) r' where
  nodup := by
    rw [(more.map Instance.id).nodup_iff, List.map_cons, List.nodup_cons]
    refine ⟨fun hmem => ?_, h.nodup⟩
    obtain ⟨inst, hinst, hid⟩ := List.mem_map.mp hmem
    exact Nat.ne_of_lt (h.made inst hinst) hid
  made inst hinst := by
    rw [next]
    rcases List.mem_cons.mp (more.subset hinst) with rfl | hinst
    · exact Nat.lt_succ_self _
    · exact Nat.lt_succ_of_lt (h.made inst hinst)
  unmade id hid := by
    rw [runs_same runs]
    exact h.unmade id (by omega)
  uses inst hinst := by
    rw [runs_same runs]
    rcases List.mem_cons.mp (more.subset hinst) with rfl | hinst
    · exact (h.unmade _ (Nat.le_refl _)).symm
    · exact h.uses inst hinst

/-- An instance has run something. -/
theorem Counted.use (h : Counted past r) {p : Possession C S} {state : S}
    {rest : List (Instance S)} (was : r.insts.Perm (p.inst :: rest))
    (more : r'.insts.Perm ((p.used state).inst :: rest))
    (next : r'.crowd.pool.nextId = r.crowd.pool.nextId) :
    Counted (past ++ [.ran p.inst.id]) r' := by
  have hids : (r'.insts.map Instance.id).Perm (r.insts.map Instance.id) :=
    (more.map Instance.id).trans (was.map Instance.id).symm
  have hp : p.inst ∈ r.insts := was.symm.subset List.mem_cons_self
  have hothers : ∀ inst ∈ rest, inst.id ≠ p.inst.id := by
    have hnot := (was.map Instance.id).nodup h.nodup
    rw [List.map_cons, List.nodup_cons] at hnot
    exact fun inst hinst heq =>
      hnot.1 (List.mem_map.mpr ⟨inst, hinst, heq⟩)
  refine ⟨hids.symm.nodup h.nodup, ?_, ?_, ?_⟩
  · intro inst hinst
    rw [next]
    have hmem := hids.subset (List.mem_map.mpr ⟨inst, hinst, rfl⟩)
    obtain ⟨old, hold, hid⟩ := List.mem_map.mp hmem
    exact hid ▸ h.made old hold
  · intro id hid
    rw [next] at hid
    have hne : id ≠ p.inst.id :=
      Nat.ne_of_gt (Nat.lt_of_lt_of_le (h.made p.inst hp) hid)
    rw [Sight.runs_append, h.unmade id hid, Sight.runs_ran_of_ne hne]
  · intro inst hinst
    rw [Sight.runs_append]
    rcases List.mem_cons.mp (more.subset hinst) with rfl | hinst
    · show p.inst.uses + 1
        = Sight.runs p.inst.id past + Sight.runs p.inst.id _
      rw [h.uses p.inst hp, Sight.runs_ran]
    · rw [Sight.runs_ran_of_ne (hothers inst hinst), Nat.add_zero]
      exact h.uses inst (was.symm.subset (List.mem_cons_of_mem _ hinst))

end Counted

section Thrifty

variable {r r' : Rush C S} {past now : List (Sight C)} {most : Nat}

/-- Nobody has more than before, and nothing has run or been handed out. -/
theorem Thrifty.less (h : Thrifty most past r)
    (held : ∀ q ∈ r'.crowd.held, ∃ p ∈ r.crowd.held, q.inst = p.inst)
    (spent : ∀ id b, now.foldl (Sight.spend id) b = b)
    (runs : ∀ id, Sight.runs id now = 0) :
    Thrifty most (past ++ now) r' where
  held q hq hspent := by
    obtain ⟨p, hp, hinst⟩ := held q hq
    rw [Sight.spent_append, spent, hinst] at hspent
    exact hinst ▸ h.held p hp hspent
  runs id := by
    rw [Sight.runs_append, runs, Nat.add_zero]
    exact h.runs id

/-- An instance may run once more when it is handed out. -/
theorem Thrifty.hand (h : Thrifty most past r) (counted : Counted past r)
    {c : C} {p : Possession C S} (held : r'.crowd.held = r.crowd.held ++ [p])
    (unworn : p.inst.uses < most)
    (uses : p.inst.uses = Sight.runs p.inst.id past) :
    Thrifty most (past ++ [.event (.handedOut c p.inst.id)]) r' where
  held q hq hspent := by
    rw [held, List.mem_append, List.mem_singleton] at hq
    rcases hq with hq | rfl
    · by_cases hid : p.inst.id = q.inst.id
      · -- As many runs as of the one that is handed out.
        have hmem : q.inst ∈ r.insts :=
          List.mem_append_left _ (List.mem_map.mpr ⟨q, hq, rfl⟩)
        rwa [counted.uses _ hmem, ← hid, ← uses]
      · refine h.held q hq ?_
        simpa [Sight.spent_append, Sight.spend, hid] using hspent
    · exact unworn
  runs id := by
    rw [Sight.runs_append]
    exact h.runs id

/-- An instance that was not spent has run something. -/
theorem Thrifty.use (h : Thrifty most past r) (counted : Counted past r)
    {front back : List (Possession C S)} {p : Possession C S} {state : S}
    (was : r.crowd.held = front ++ p :: back)
    (held : r'.crowd.held = front ++ p.used state :: back)
    (single : Sight.Single (past ++ [.ran p.inst.id])) :
    Thrifty most (past ++ [.ran p.inst.id]) r' where
  held q hq hspent := by
    obtain ⟨hbefore, hne⟩ : Sight.spent q.inst.id past = false
        ∧ p.inst.id ≠ q.inst.id := by
      simpa [Sight.spent_append, Sight.spend] using hspent
    rw [held, List.mem_append, List.mem_cons] at hq
    rcases hq with hq | rfl | hq
    · exact h.held q (by simp [was, hq]) hbefore
    · exact absurd rfl hne
    · exact h.held q (by simp [was, hq]) hbefore
  runs id := by
    rw [Sight.runs_append]
    by_cases hid : id = p.inst.id
    · subst hid
      have hp : p ∈ r.crowd.held := by simp [was]
      have huses := counted.uses p.inst
        (List.mem_append_left _ (List.mem_map.mpr ⟨p, hp, rfl⟩))
      rw [Sight.runs_ran, ← huses]
      exact h.held p hp single.unspent
    · rw [Sight.runs_ran_of_ne hid, Nat.add_zero]
      exact h.runs id

end Thrifty

/-- All that is kept at a pool with this policy. -/
structure Kept (policy : PoolPolicy) (past : List (Sight C))
    (r : Rush C S) : Prop where
  within : Within policy r
  counted : Counted past r
  thrifty : ∀ most, policy.maxUses = some most → 1 ≤ most →
    Sight.Single past → Thrifty most past r

theorem kept_start (policy : PoolPolicy) :
    Kept policy [] (start policy : Rush C S) where
  within := ⟨⟨rfl, fun _ _ => Nat.zero_le _, nofun⟩, nofun⟩
  counted := ⟨.nil, nofun, fun _ _ => rfl, nofun⟩
  thrifty _ _ _ _ := ⟨nofun, fun _ => Nat.zero_le _⟩

/-! ### Turns -/

variable [DecidableEq C]

/-- One step of one caller, and what can be seen of it. -/
def step (r : Rush C S) : Turn C S → Rush C S × List (Sight C)
  | .whole m =>
    ({ r with crowd := (r.crowd.step m).1 },
      r.crowd.sights m (r.crowd.step m).2)
  | .inspect m =>
    match r.crowd.offered? m with
    | some (p, k) =>
      (r.inspect p k, [.event (.takenBack p.caller p.inst.id)])
    | none => (r, [])
  | .enter id =>
    match r.arriving.find? (·.id = id) with
    | some inst =>
      ({ crowd := { r.crowd with pool := r.crowd.pool.enter inst }
         arriving := r.arriving.eraseP (·.id = id) }, [])
    | none => (r, [])

/-- The steps of all callers in one order, and what can be seen of them. -/
def run (r : Rush C S) : List (Turn C S) → Rush C S × List (Sight C)
  | [] => (r, [])
  | t :: rest =>
    let (r, now) := r.step t
    let (r, later) := run r rest
    (r, now ++ later)

/-! ### Changes -/

/-- All that a turn can do, with what can be seen of it. -/
inductive Change (r r' : Rush C S) : List (Sight C) → Prop where
  | nothing (same : r' = r) : Change r r' []
  /-- The crowd makes a step. -/
  | moved (m : Move C S) (e : Option (Event C))
      (deal : Crowd.Deal r.crowd r'.crowd m e)
      (arriving : r'.arriving = r.arriving) :
      Change r r' (r.crowd.sights m e)
  /-- A worn instance was given back. -/
  | dismissed (front : List (Possession C S)) (p : Possession C S)
      (back : List (Possession C S)) (was : r.crowd.held = front ++ p :: back)
      (held : r'.crowd.held = front ++ back)
      (pool : r'.crowd.pool = r.crowd.pool.discard)
      (arriving : r'.arriving = r.arriving) :
      Change r r' [.event (.takenBack p.caller p.inst.id)]
  /-- An instance that is not worn was given back. -/
  | accepted (front : List (Possession C S)) (p : Possession C S)
      (back : List (Possession C S)) (was : r.crowd.held = front ++ p :: back)
      (held : r'.crowd.held = front ++ back)
      (pool : r'.crowd.pool = r.crowd.pool)
      (unworn : Pool.isWorn r.crowd.pool.policy p.inst = false)
      (arriving : r'.arriving = p.inst :: r.arriving) :
      Change r r' [.event (.takenBack p.caller p.inst.id)]
  /-- An instance enters the pool, or finds it full. -/
  | entered (front : List (Instance S)) (inst : Instance S)
      (back : List (Instance S)) (was : r.arriving = front ++ inst :: back)
      (arriving : r'.arriving = front ++ back)
      (held : r'.crowd.held = r.crowd.held)
      (pool : r'.crowd.pool = r.crowd.pool.enter inst) :
      Change r r' []

/-- **Every turn makes one of the changes.** -/
theorem step_change (r : Rush C S) (t : Turn C S) :
    Change r (r.step t).1 (r.step t).2 := by
  cases t with
  | whole m => exact .moved m _ (Crowd.step_deal r.crowd m) rfl
  | inspect m =>
    simp only [step]
    split
    · rename_i p k hoffered
      obtain ⟨front, back, was, held, pool⟩ :=
        (Crowd.step_offered hoffered).1
      unfold inspect
      split
      · exact .dismissed front p back was held (by rw [pool]) rfl
      · rename_i unworn
        rw [pool, Bool.not_eq_true] at unworn
        exact .accepted front p back was held pool unworn rfl
    · exact .nothing rfl
  | enter id =>
    simp only [step]
    split
    · rename_i inst hfind
      obtain ⟨front, back, was, arriving⟩ := Crowd.find?_eraseP hfind
      exact .entered front inst back was arriving rfl rfl
    · exact .nothing rfl

/-- Where nobody comes between them, the two halves are the move. -/
theorem crowd_halves (r : Rush C S) {m : Move C S} {p : Possession C S}
    {k : Crowd C S} (h : r.crowd.offered? m = some (p, k))
    (alone : ∀ inst ∈ r.arriving, inst.id ≠ p.inst.id) :
    ((r.step (.inspect m)).1.step (.enter p.inst.id)).1.crowd
      = (r.crowd.step m).1 := by
  have hnone : r.arriving.find? (·.id = p.inst.id) = none :=
    List.find?_eq_none.mpr fun inst hinst => by simpa using alone inst hinst
  rw [(Crowd.step_offered h).2, Pool.put_eq]
  simp only [step, h, inspect]
  by_cases worn : Pool.isWorn k.pool.policy p.inst = true
  · simp only [if_pos worn, hnone]
  · simp [if_neg worn]

/-! ### Runs -/

/-- What every turn keeps of a state and what was seen so far, every run
keeps. -/
theorem run_history {P : List (Sight C) → Rush C S → Prop}
    (keep : ∀ past r t, P past r → P (past ++ (r.step t).2) (r.step t).1)
    (turns : List (Turn C S)) :
    ∀ {past : List (Sight C)} {r : Rush C S}, P past r →
      P (past ++ (r.run turns).2) (r.run turns).1 := by
  induction turns with
  | nil =>
    intro past r h
    rwa [run, List.append_nil]
  | cons t rest ih =>
    intro past r h
    have hrest := ih (keep past r t h)
    rwa [List.append_assoc] at hrest

section Steps

variable {r r' : Rush C S} {past now : List (Sight C)} {policy : PoolPolicy}
  {most : Nat}

theorem within_change (h : Within policy r) (change : Change r r' now) :
    Within policy r' := by
  obtain ⟨pool, arriving⟩ := h
  cases change with
  | nothing same => exact same ▸ ⟨pool, arriving⟩
  | moved m e deal same =>
    refine ⟨?_, same ▸ arriving⟩
    cases deal with
    | popped c guarded inst rest idle pool' held =>
      rw [pool']
      exact pool.rest idle
    | created c state guarded pool' held => exact pool' ▸ pool.create state
    | prepared c state pool' held => exact pool' ▸ pool.create state
    | returned m unused front p back was held pool' =>
      exact pool' ▸ pool.put p.inst
    | still m unused pool' held => exact pool' ▸ pool
    | failed c pool' held => exact pool' ▸ pool
    | discarded c id front p back was held hold pool' => exact pool' ▸ pool
    | detached c id front p back was held hold pool' => exact pool' ▸ pool
    | used c state front p back ran was held hold pool' =>
      exact pool' ▸ pool
  | dismissed front p back was held pool' same =>
    exact ⟨pool' ▸ pool.discard, same ▸ arriving⟩
  | accepted front p back was held pool' unworn more =>
    refine ⟨pool' ▸ pool, ?_⟩
    rw [more]
    exact List.forall_mem_cons.mpr ⟨pool.same ▸ unworn, arriving⟩
  | entered front inst back was rest held pool' =>
    rw [was] at arriving
    refine ⟨pool' ▸ pool.enter (arriving inst (by simp)), ?_⟩
    rw [rest]
    exact fun other hother => arriving other
      (((List.sublist_cons_self inst back).append_left front).subset hother)

/-- The instances after a turn are those before it, less perhaps some, or
one is new, or one was used. -/
theorem insts_change (change : Change r r' now) :
    (r'.insts.Subperm r.insts ∧ r'.crowd.pool.nextId = r.crowd.pool.nextId
        ∧ ∀ id, Sight.runs id now = 0)
      ∨ (∃ state, r'.insts.Perm
            ((r.crowd.pool.create state).1 :: r.insts)
          ∧ r'.crowd.pool.nextId = r.crowd.pool.nextId + 1
          ∧ ∀ id, Sight.runs id now = 0)
      ∨ ∃ p state rest, p ∈ r.crowd.held ∧ now = [.ran p.inst.id]
        ∧ r.insts.Perm (p.inst :: rest)
        ∧ r'.insts.Perm ((p.used state).inst :: rest)
        ∧ r'.crowd.pool.nextId = r.crowd.pool.nextId := by
  cases change with
  | nothing same => exact .inl (same ▸ ⟨.refl _, rfl, fun _ => rfl⟩)
  | moved m e deal same =>
    cases deal with
    | still m unused pool held =>
      refine .inl ⟨?_, by rw [pool], fun id => ?_⟩
      · rw [insts, insts, pool, held, same]
      · rw [Crowd.sights, unused]
        rfl
    | popped c guarded inst rest idle pool held =>
      refine .inl ⟨List.Perm.subperm ?_, by rw [pool], fun id => rfl⟩
      simp [insts, pool, held, same, idle]
    | created c state guarded pool held =>
      exact .inr (.inl ⟨state, insts_more held (by rw [pool]; rfl) same,
        by rw [pool]; rfl, fun id => rfl⟩)
    | prepared c state pool held =>
      exact .inr (.inl ⟨state, insts_more held (by rw [pool]; rfl) same,
        by rw [pool]; rfl, fun id => rfl⟩)
    | failed c pool held =>
      refine .inl ⟨List.Sublist.subperm ?_, by rw [pool], fun id => rfl⟩
      rw [insts, insts, pool, held, same]
      exact (List.filter_sublist.map _).append_right _
    | returned m unused front p back was held pool =>
      refine .inl ⟨?_, by rw [pool, (Crowd.put_idle _ _).2], fun id => ?_⟩
      · rw [insts, insts, pool, held, was, same,
          (held_perm front p back _).subperm_left]
        rcases (Crowd.put_idle r.crowd.pool p.inst).1 with hidle | hidle
        · rw [hidle]
          exact List.perm_middle.subperm
        · rw [hidle]
          exact .cons_self
      · rw [Crowd.sights, unused]
        rfl
    | discarded c id front p back was held hold pool =>
      refine .inl ⟨?_, by rw [pool], fun id => rfl⟩
      rw [insts, insts, pool, held, was, same,
        (held_perm front p back _).subperm_left]
      exact .cons_self
    | detached c id front p back was held hold pool =>
      refine .inl ⟨List.Perm.subperm ?_, by rw [pool], fun id => rfl⟩
      rw [insts, insts, pool, held, was, same]
      simp [Possession.unguarded]
    | used c state front p back ran was held hold pool =>
      refine .inr (.inr ⟨p, state, (front ++ back).map Possession.inst
        ++ (r.crowd.pool.idle ++ r.arriving), by simp [was], ?_, ?_, ?_,
        by rw [pool]⟩)
      · simp [Crowd.sights, ran]
      · rw [insts, was]
        exact held_perm front p back _
      · rw [insts, held, pool, same]
        exact held_perm front _ back _
  | dismissed front p back was held pool same =>
    refine .inl ⟨?_, by rw [pool]; rfl, fun id => rfl⟩
    rw [insts, insts, pool, held, was, same,
      (held_perm front p back _).subperm_left]
    exact .cons_self
  | accepted front p back was held pool unworn more =>
    refine .inl ⟨?_, by rw [pool], fun id => rfl⟩
    rw [insts, insts, pool, held, was, more,
      (held_perm front p back _).subperm_left, ← List.append_assoc]
    refine List.Perm.subperm (List.perm_middle.trans ?_)
    rw [List.append_assoc]
  | entered front inst back was rest held pool =>
    refine .inl ⟨?_, by rw [pool, (Pool.enter_idle _ _).2], fun id => rfl⟩
    rw [insts, insts, pool, held, was, rest]
    refine (List.subperm_append_left _).mpr ?_
    rw [← List.append_assoc r.crowd.pool.idle,
      List.perm_middle.subperm_left]
    rcases (Pool.enter_idle r.crowd.pool inst).1 with hidle | hidle
    · rw [hidle, List.cons_append, List.append_assoc]
    · rw [hidle, List.append_assoc]
      exact .cons_self

theorem counted_change (h : Counted past r) (change : Change r r' now) :
    Counted (past ++ now) r' := by
  rcases insts_change change with ⟨less, next, runs⟩
    | ⟨state, more, next, runs⟩ | ⟨p, state, rest, -, rfl, was, more, next⟩
  · exact h.less less next runs
  · exact h.create more next runs
  · exact h.use was more next

/-- An instance that is handed out is not worn. -/
theorem handedOut_change (h : Within policy r)
    (limit : policy.maxUses = some most) (pos : 1 ≤ most)
    (change : Change r r' now) {c : C} {id : Nat}
    (hnow : .event (.handedOut c id) ∈ now) :
    ∃ p ∈ r'.crowd.held, p.caller = c ∧ p.inst.id = id
      ∧ p.inst.uses < most := by
  cases change with
  | nothing same => cases hnow
  | dismissed front p back was held pool same => simp at hnow
  | accepted front p back was held pool unworn more => simp at hnow
  | entered front inst back was rest held pool => cases hnow
  | moved m e deal same =>
    have he : e = some (.handedOut c id) := by
      unfold Crowd.sights at hnow
      cases e with
      | none => simp at hnow
      | some e =>
        rcases List.mem_append.mp hnow with hran | hevent
        · simp at hran
        · have heq : Event.handedOut c id = e := by simpa using hevent
          rw [heq]
    subst he
    cases deal with
    | popped _ guarded inst rest idle pool held =>
      exact ⟨⟨c, inst, .handedOut guarded⟩, by simp [held], rfl, rfl,
        (Pool.isWorn_eq_false limit).mp (h.pool.unworn inst (by simp [idle]))⟩
    | created _ state guarded pool held =>
      exact ⟨⟨c, (r.crowd.pool.create state).1, .handedOut guarded⟩,
        by simp [held], rfl, rfl, pos⟩

theorem thrifty_change (h : Thrifty most past r) (within : Within policy r)
    (counted : Counted past r) (limit : policy.maxUses = some most)
    (pos : 1 ≤ most) (single : Sight.Single (past ++ now))
    (change : Change r r' now) : Thrifty most (past ++ now) r' := by
  have rest : ∀ {front back : List (Possession C S)} {p : Possession C S},
      r.crowd.held = front ++ p :: back → r'.crowd.held = front ++ back →
      ∀ q ∈ r'.crowd.held, ∃ p ∈ r.crowd.held, q.inst = p.inst := by
    intro front back p was held q hq
    refine ⟨q, ?_, rfl⟩
    rw [held] at hq
    rw [was]
    exact ((List.sublist_cons_self p back).append_left front).subset hq
  cases change with
  | nothing same =>
    exact h.less (fun q hq => ⟨q, same ▸ hq, rfl⟩) (fun _ _ => rfl)
      fun _ => rfl
  | dismissed front p back was held pool same =>
    exact h.less (rest was held) (fun _ _ => rfl) fun _ => rfl
  | accepted front p back was held pool unworn more =>
    exact h.less (rest was held) (fun _ _ => rfl) fun _ => rfl
  | entered front inst back was arriving held pool =>
    exact h.less (fun q hq => ⟨q, held ▸ hq, rfl⟩) (fun _ _ => rfl)
      fun _ => rfl
  | moved m e deal same =>
    cases deal with
    | still m unused pool held =>
      rw [Crowd.sights, unused]
      exact h.less (fun q hq => ⟨q, held ▸ hq, rfl⟩) (fun _ _ => rfl)
        fun _ => rfl
    | popped c guarded inst others idle pool held =>
      have hinst : inst ∈ r.crowd.pool.idle := by simp [idle]
      exact h.hand counted held
        ((Pool.isWorn_eq_false limit).mp (within.pool.unworn inst hinst))
        (counted.uses inst
          (List.mem_append_right _ (List.mem_append_left _ hinst)))
    | created c state guarded pool held =>
      exact h.hand counted held pos (counted.unmade _ (Nat.le_refl _)).symm
    | prepared c state pool held =>
      refine ⟨fun q hq hspent => ?_, fun id => ?_⟩
      · rw [held, List.mem_append, List.mem_singleton] at hq
        rcases hq with hq | rfl
        · exact h.held q hq (by simpa [Crowd.sights, Crowd.ran?] using hspent)
        · exact pos
      · simpa [Crowd.sights, Crowd.ran?] using h.runs id
    | failed c pool held =>
      refine h.less (fun q hq => ⟨q, ?_, rfl⟩) (fun _ _ => rfl) fun _ => rfl
      rw [held] at hq
      exact List.mem_of_mem_filter hq
    | returned m unused front p back was held pool =>
      rw [Crowd.sights, unused]
      exact h.less (rest was held) (fun _ _ => rfl) fun _ => rfl
    | discarded c id front p back was held hold pool =>
      exact h.less (rest was held) (fun _ _ => rfl) fun _ => rfl
    | detached c id front p back was held hold pool =>
      refine h.less (fun q hq => ?_) (fun _ _ => rfl) fun _ => rfl
      rw [held, List.mem_append, List.mem_cons] at hq
      rcases hq with hq | rfl | hq
      · exact ⟨q, by simp [was, hq], rfl⟩
      · exact ⟨p, by simp [was], rfl⟩
      · exact ⟨q, by simp [was, hq], rfl⟩
    | used c state front p back ran was held hold pool =>
      have hnow : r.crowd.sights (.use c p.inst.id state) none
          = [.ran p.inst.id] := by
        rw [Crowd.sights, ran]
        rfl
      rw [hnow] at single ⊢
      exact h.use counted was held single

end Steps

/-- **A turn keeps all of it.** -/
theorem kept_step {policy : PoolPolicy} {past : List (Sight C)}
    {r : Rush C S} (h : Kept policy past r) (t : Turn C S) :
    Kept policy (past ++ (r.step t).2) (r.step t).1 := by
  have change := step_change r t
  exact ⟨within_change h.within change, counted_change h.counted change,
    fun most limit pos single => thrifty_change
      (h.thrifty most limit pos single.of_append) h.within h.counted limit
      pos single change⟩

/-- **A pool keeps its limits.** Whatever the policy, and in whatever order
the callers of a new pool have made their steps, with others coming between
the two halves of giving an instance back: there are never more idle
instances than the policy allows, and none of them has been used that often
that it is worn. So an instance that is handed out has a use left, if the
policy allows any. The uses of an instance are the scripts that it has run,
and they are never more than the policy allows if whoever is handed an
instance runs at most one script on it. -/
theorem run_limits (policy : PoolPolicy) (turns : List (Turn C S)) :
    let (r, seen) := (start policy : Rush C S).run turns
    (∀ most, policy.maxIdle = some most →
        r.crowd.pool.idle.length ≤ most)
      ∧ (∀ most, policy.maxUses = some most →
        (∀ inst ∈ r.crowd.pool.idle, inst.uses < most)
          ∧ (1 ≤ most → ∀ t c id,
            .event (.handedOut c id) ∈ (r.step t).2 →
            ∃ p ∈ (r.step t).1.crowd.held, p.caller = c
              ∧ p.inst.id = id ∧ p.inst.uses < most)
          ∧ (1 ≤ most → Sight.Single seen →
            ∀ id, Sight.runs id seen ≤ most))
      ∧ ∀ inst ∈ r.insts, inst.uses = Sight.runs inst.id seen := by
  have h : Kept policy ((start policy : Rush C S).run turns).2
      ((start policy : Rush C S).run turns).1 :=
    run_history (P := Kept policy) (fun _ _ t hk => kept_step hk t) turns
      (kept_start policy)
  refine ⟨h.within.pool.room, fun most limit => ⟨?_, ?_, ?_⟩,
    h.counted.uses⟩
  · exact fun inst hinst =>
      (Pool.isWorn_eq_false limit).mp (h.within.pool.unworn inst hinst)
  · exact fun pos t c id hnow =>
      handedOut_change h.within limit pos (step_change _ t) hnow
  · exact fun pos single => (h.thrifty most limit pos single).runs

/-- Two callers at a pool that keeps one idle instance, which is worn after
two runs. The second caller comes between the two halves of giving the first
instance back, so that the pool is full when its own one enters; then it
wears the first one out. -/
def recycling : List (Turn Bool Unit) :=
  [.whole (.get false true), .whole (.configure false (some ())),
    .whole (.use false 1 ()), .inspect (.drop false 1),
    .whole (.get true true), .whole (.configure true (some ())), .enter 1,
    .whole (.use true 2 ()), .inspect (.drop true 2), .enter 2,
    .whole (.get true false), .whole (.use true 1 ()),
    .inspect (.put true 1)]

theorem run_recycling :
    let (r, seen) := (start { maxIdle := some 1, maxUses := some 2 } :
      Rush Bool Unit).run recycling
    r.crowd.pool.stats = { created := 2, idle := 0, dropped := 2 }
      ∧ Sight.Single seen ∧ Sight.runs 1 seen = 2
      ∧ ∀ id, Sight.runs id seen ≤ 2 :=
  ⟨rfl, by decide, rfl,
    ((run_limits { maxIdle := some 1, maxUses := some 2 } recycling).2.1 2
      rfl).2.2 (by decide) (by decide)⟩

end Rush

end ScriptHost
