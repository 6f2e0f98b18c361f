/-
ScriptHost.Proofs.Pool.Deal — what a move does, exactly.

`Crowd.Effect` says what a step can do to the pool and to the row of what is
held. A `Deal` says it for each move by itself: how the instance that changes
hands was held before, which one was used, and that a move which does
nothing else has used none (`ran?`). `step_deal` finds the deal of every
move, so a statement about steps that needs to tell the moves apart is a
case analysis of `Deal`.
-/
import ScriptHost.Proofs.Pool.Crowd

namespace ScriptHost.Crowd

variable {C S : Type}

/-! ## What passes a test -/

/-- What is found passes the test, and is what is taken out. -/
theorem find_split {A : Type} (test : A → Bool) (row : List A) :
    (row.find? test = none ∧ row.eraseP test = row)
      ∨ ∃ front p back, row.find? test = some p ∧ test p = true
        ∧ row = front ++ p :: back ∧ row.eraseP test = front ++ back := by
  cases h : row.find? test with
  | none =>
    refine .inl ⟨rfl, List.eraseP_of_forall_not fun p hp => ?_⟩
    simpa using List.find?_eq_none.mp h p hp
  | some p =>
    obtain ⟨front, back, hrow, herase⟩ := find?_eraseP h
    exact .inr ⟨front, p, back, rfl, List.find?_some h, hrow, herase⟩

/-- A change touches the first possession that passes the test. -/
theorem change_split (test : Possession C S → Bool)
    (f : Possession C S → Possession C S) (row : List (Possession C S)) :
    (row.any test = false ∧ change.go test f row = row)
      ∨ ∃ front p back, row.any test = true ∧ test p = true
        ∧ row = front ++ p :: back
        ∧ change.go test f row = front ++ f p :: back := by
  induction row with
  | nil => exact .inl ⟨rfl, rfl⟩
  | cons p rest ih =>
    simp only [change.go, List.any_cons]
    cases hp : test p with
    | true => exact .inr ⟨[], p, rest, rfl, hp, rfl, rfl⟩
    | false =>
      rcases ih with ⟨hany, hgo⟩ | ⟨front, q, back, hany, hq, hrow, hgo⟩
      · exact .inl ⟨hany, by simp [hgo]⟩
      · exact .inr ⟨p :: front, q, back, hany, hq, by simp [hrow],
          by simp [hgo]⟩

/-! ## Deals -/

variable [DecidableEq C]

/-- The instance on which a move runs something, if it does so. -/
def ran? (k : Crowd C S) : Move C S → Option Nat
  | .use c id _ =>
    if k.activity c = .free ∧ k.held.any (·.isUsable c id) = true then some id
    else none
  | _ => none

/-- What a move does to the pool and to what is held, and what can be seen
of it. -/
inductive Deal (k k' : Crowd C S) :
    Move C S → Option (Event C) → Prop where
  /-- At most the caller's activity changes. -/
  | still (m : Move C S) (unused : k.ran? m = none)
      (pool : k'.pool = k.pool) (held : k'.held = k.held) : Deal k k' m none
  /-- An idle instance is handed out. -/
  | popped (c : C) (guarded : Bool) (inst : Instance S)
      (rest : List (Instance S)) (idle : k.pool.idle = inst :: rest)
      (pool : k'.pool = { k.pool with idle := rest })
      (held : k'.held = k.held ++ [⟨c, inst, .handedOut guarded⟩]) :
      Deal k k' (.get c guarded) (some (.handedOut c inst.id))
  /-- A new instance is handed out. -/
  | created (c : C) (state : S) (guarded : Bool)
      (pool : k'.pool = (k.pool.create state).2)
      (held : k'.held
        = k.held ++ [⟨c, (k.pool.create state).1, .handedOut guarded⟩]) :
      Deal k k' (.configure c (some state))
        (some (.handedOut c k.pool.nextId))
  /-- A new instance is made ahead of time. -/
  | prepared (c : C) (state : S)
      (pool : k'.pool = (k.pool.create state).2)
      (held : k'.held = k.held ++ [⟨c, (k.pool.create state).1, .fresh⟩]) :
      Deal k k' (.configure c (some state)) none
  /-- What a caller has made ahead of time is destroyed, for it cannot make
  more. -/
  | failed (c : C) (pool : k'.pool = k.pool)
      (held : k'.held = k.held.filter (!·.isFresh c)) :
      Deal k k' (.configure c none) none
  /-- An instance goes to the pool, which keeps it or not. -/
  | returned (m : Move C S) (unused : k.ran? m = none)
      (front : List (Possession C S)) (p : Possession C S)
      (back : List (Possession C S)) (was : k.held = front ++ p :: back)
      (held : k'.held = front ++ back)
      (pool : k'.pool = k.pool.put p.inst) :
      Deal k k' m (some (.takenBack p.caller p.inst.id))
  /-- An owned instance is destroyed. -/
  | discarded (c : C) (id : Nat) (front : List (Possession C S))
      (p : Possession C S) (back : List (Possession C S))
      (was : k.held = front ++ p :: back) (held : k'.held = front ++ back)
      (hold : p.hold = .owned) (pool : k'.pool = k.pool) :
      Deal k k' (.discard c id) none
  /-- A guarded instance loses its guard. -/
  | detached (c : C) (id : Nat) (front : List (Possession C S))
      (p : Possession C S) (back : List (Possession C S))
      (was : k.held = front ++ p :: back)
      (held : k'.held = front ++ p.unguarded :: back)
      (hold : p.hold = .guarded) (pool : k'.pool = k.pool) :
      Deal k k' (.detach c id) none
  /-- An instance is used. -/
  | used (c : C) (state : S) (front : List (Possession C S))
      (p : Possession C S) (back : List (Possession C S))
      (ran : k.ran? (.use c p.inst.id state) = some p.inst.id)
      (was : k.held = front ++ p :: back)
      (held : k'.held = front ++ p.used state :: back)
      (hold : p.hold ≠ .fresh) (pool : k'.pool = k.pool) :
      Deal k k' (.use c p.inst.id state) none

theorem lookFor_deal (k : Crowd C S) (c : C) (guarded : Bool) :
    Deal k (k.lookFor c guarded).1 (.get c guarded)
      (k.lookFor c guarded).2 := by
  unfold lookFor Pool.pop?
  cases h : k.pool.idle with
  | nil => exact .still _ rfl rfl rfl
  | cons inst rest => exact .popped c guarded inst rest h rfl rfl

theorem configured_deal (k : Crowd C S) (c : C) (outcome : Option S) :
    Deal k (k.configured c outcome).1 (.configure c outcome)
      (k.configured c outcome).2 := by
  unfold configured
  split
  · rename_i guarded state _
    exact .created c state guarded rfl rfl
  · exact .still _ rfl rfl rfl
  · rename_i left state _
    exact .prepared c state rfl rfl
  · exact .failed c rfl rfl
  · exact .still _ rfl rfl rfl

theorem giveBack_deal (k : Crowd C S) (test : Possession C S → Bool)
    {m : Move C S} (unused : k.ran? m = none) :
    Deal k (k.giveBack test).1 m (k.giveBack test).2 := by
  unfold giveBack pull?
  rcases find_split test k.held with
    ⟨hnone, -⟩ | ⟨front, p, back, hsome, -, hrow, herase⟩
  · rw [hnone]
    exact .still m unused rfl rfl
  · rw [hsome]
    exact .returned m unused front p back hrow herase rfl

theorem discard_deal (k : Crowd C S) (c : C) (id : Nat) :
    Deal k { k with held := k.held.eraseP (·.isHeld c .owned id) }
      (.discard c id) none := by
  rcases find_split (·.isHeld c .owned id) k.held with
    ⟨-, herase⟩ | ⟨front, p, back, -, hp, hrow, herase⟩
  · exact .still _ rfl rfl herase
  · simp only [Possession.isHeld, Bool.and_eq_true, decide_eq_true_eq] at hp
    exact .discarded c id front p back hrow herase hp.1.2 rfl

theorem detach_deal (k : Crowd C S) (c : C) (id : Nat) :
    Deal k (k.change (·.isHeld c .guarded id) Possession.unguarded)
      (.detach c id) none := by
  rcases change_split (·.isHeld c .guarded id) Possession.unguarded k.held
    with ⟨-, hgo⟩ | ⟨front, p, back, -, hp, hrow, hgo⟩
  · exact .still _ rfl rfl hgo
  · simp only [Possession.isHeld, Bool.and_eq_true, decide_eq_true_eq] at hp
    exact .detached c id front p back hrow hgo hp.1.2 rfl

theorem use_deal {k : Crowd C S} {c : C} (free : k.activity c = .free)
    (id : Nat) (state : S) :
    Deal k (k.change (·.isUsable c id) (·.used state)) (.use c id state)
      none := by
  rcases change_split (·.isUsable c id) (·.used state) k.held
    with ⟨hany, hgo⟩ | ⟨front, p, back, hany, hp, hrow, hgo⟩
  · exact .still _ (by simp [ran?, hany]) rfl hgo
  · simp only [Possession.isUsable, Bool.and_eq_true, decide_eq_true_eq]
      at hp
    obtain rfl := hp.2
    exact .used c state front p back (if_pos ⟨free, hany⟩) hrow hgo hp.1.2
      rfl

/-- **Every move makes a deal.** -/
theorem step_deal (k : Crowd C S) (m : Move C S) :
    Deal k (k.step m).1 m (k.step m).2 := by
  cases m with
  | configure c outcome => exact configured_deal k c outcome
  | get c guarded =>
    simp only [step]
    split
    · exact lookFor_deal k c guarded
    · exact .still _ rfl rfl rfl
  | put c id | drop c id =>
    simp only [step]
    split
    · exact giveBack_deal k _ rfl
    · exact .still _ rfl rfl rfl
  | detach c id =>
    simp only [step]
    split
    · exact detach_deal k c id
    · exact .still _ rfl rfl rfl
  | discard c id =>
    simp only [step]
    split
    · exact discard_deal k c id
    · exact .still _ rfl rfl rfl
  | use c id state =>
    simp only [step]
    split
    · rename_i free
      exact use_deal free id state
    · rename_i busy
      exact .still _ (by simp [ran?, busy]) rfl rfl
  | warm c count =>
    simp only [step]
    split
    · exact .still _ rfl rfl rfl
    · exact .still _ rfl rfl rfl
  | store c =>
    simp only [step, stored]
    split
    · split
      · exact giveBack_deal k _ rfl
      · exact .still _ rfl rfl rfl
    · exact .still _ rfl rfl rfl

end ScriptHost.Crowd
