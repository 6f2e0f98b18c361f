/-
ScriptHost.Proofs.Pool.Crowd — many callers at one pool, step by step.

A pool serves several callers at once. Its lock is held only while one
instance is taken out or put in, so an operation of one caller can be
interrupted by the others between such steps: between looking for an idle
instance and configuring a new one, and between any two instances that are
made ahead of time. A `Crowd` is the pool with what every caller holds and
what every caller is in the middle of. A `Move` is one step of one caller,
and a list of moves is one order in which the steps of all callers may
follow each other. A move that its caller cannot make at that moment
changes nothing.

* `step_effect` says once what a step can do to the pool and to what is
  held. Every invariant of a crowd is a case analysis of `Effect`.
* `run_get`, `step_put`, `step_drop` and `run_warm` say that an operation
  which nobody interrupts is the operation of the pool itself, and `step_use`
  says that running a script is a use.
-/
import Mathlib.Data.List.Perm.Basic
import Mathlib.Logic.Function.Basic
import ScriptHost.Engine.Pool

namespace ScriptHost

/-- How a caller has an instance. -/
inductive Hold where
  /-- It goes back when the caller puts it. -/
  | owned
  /-- It goes back by itself when the caller lets go of it. -/
  | guarded
  /-- It was made ahead of time and is on its way into the pool. -/
  | fresh
  deriving DecidableEq, Repr

/-- How an instance is held that was handed out with or without a guard. -/
def Hold.handedOut (guarded : Bool) : Hold :=
  if guarded then .guarded else .owned

/-- An instance in the hands of a caller. -/
structure Possession (C S : Type) where
  caller : C
  inst : Instance S
  hold : Hold

/-- What a caller is in the middle of. -/
inductive Activity where
  | free
  /-- The pool had no instance for it, so it configures one. -/
  | configuring (guarded : Bool)
  /-- It has that many instances to make ahead of time. With none left to
  make, it puts those that it made into the pool. -/
  | warming (left : Nat)
  deriving DecidableEq, Repr

/-- A pool and its callers. -/
structure Crowd (C S : Type) where
  pool : Pool S
  /-- What the callers hold, the oldest possession first. -/
  held : List (Possession C S) := []
  activity : C → Activity := fun _ => .free

/-- One step of one caller. -/
inductive Move (C S : Type) where
  /-- Looks for an idle instance. -/
  | get (caller : C) (guarded : Bool)
  /-- Configures an instance, or fails to. -/
  | configure (caller : C) (outcome : Option S)
  /-- Gives an owned instance back. -/
  | put (caller : C) (id : Nat)
  /-- Lets go of a guarded instance, which goes back by itself. -/
  | drop (caller : C) (id : Nat)
  /-- Makes a guarded instance owned. -/
  | detach (caller : C) (id : Nat)
  /-- Destroys an owned instance. -/
  | discard (caller : C) (id : Nat)
  /-- Uses an instance, which is then in another state. -/
  | use (caller : C) (id : Nat) (state : S)
  /-- Begins to make instances ahead of time. -/
  | warm (caller : C) (count : Nat)
  /-- Puts the oldest instance that it made ahead of time into the pool; is
  done with that if there is none. -/
  | store (caller : C)

/-- What others can see of a step. -/
inductive Event (C : Type) where
  | handedOut (caller : C) (id : Nat)
  | takenBack (caller : C) (id : Nat)
  deriving DecidableEq, Repr

namespace Possession

variable {C S : Type} [DecidableEq C]

/-- Does a caller have this instance in this way? -/
def isHeld (caller : C) (hold : Hold) (id : Nat) (p : Possession C S) :
    Bool :=
  p.caller = caller && p.hold = hold && p.inst.id = id

/-- Did a caller make this instance ahead of time? -/
def isFresh (caller : C) (p : Possession C S) : Bool :=
  p.caller = caller && p.hold = .fresh

/-- Can a caller run something on this instance? -/
def isUsable (caller : C) (id : Nat) (p : Possession C S) : Bool :=
  p.caller = caller && p.hold ≠ .fresh && p.inst.id = id

/-- The possession after a use that left the instance in a state. -/
def used (state : S) (p : Possession C S) : Possession C S :=
  { p with inst := { p.inst with uses := p.inst.uses + 1, state := state } }

/-- The possession without its guard. -/
def unguarded (p : Possession C S) : Possession C S :=
  { p with hold := .owned }

end Possession

namespace Crowd

variable {C S : Type}

/-- A new pool, at which nobody has done anything yet. -/
def start (policy : PoolPolicy) : Crowd C S := { pool := { policy := policy } }

/-! ## What is held -/

/-- A caller has one more instance, and the pool is as given. -/
def hand (k : Crowd C S) (pool : Pool S) (p : Possession C S) :
    Crowd C S :=
  { k with pool := pool, held := k.held ++ [p] }

/-- Takes the oldest possession that passes a test out of the hands of its
caller. -/
def pull? (k : Crowd C S) (test : Possession C S → Bool) :
    Option (Possession C S × Crowd C S) :=
  match k.held.find? test with
  | some p => some (p, { k with held := k.held.eraseP test })
  | none => none

/-- Puts the oldest possession that passes a test into the pool. -/
def giveBack (k : Crowd C S) (test : Possession C S → Bool) :
    Crowd C S × Option (Event C) :=
  match k.pull? test with
  | some (p, k) =>
    ({ k with pool := k.pool.put p.inst },
      some (.takenBack p.caller p.inst.id))
  | none => (k, none)

/-- Changes the oldest possession that passes a test. -/
def change (k : Crowd C S) (test : Possession C S → Bool)
    (f : Possession C S → Possession C S) : Crowd C S :=
  { k with held := go k.held }
where
  go : List (Possession C S) → List (Possession C S)
    | [] => []
    | p :: rest => if test p then f p :: rest else p :: go rest

/-! ## Effects -/

/-- All that a step can do to the pool and to what is held, with what can
be seen of it. -/
inductive Effect (k k' : Crowd C S) : Option (Event C) → Prop where
  /-- At most the caller's activity changes. -/
  | quiet (pool : k'.pool = k.pool) (held : k'.held = k.held) :
      Effect k k' none
  /-- An idle instance is handed out. -/
  | popped (c : C) (inst : Instance S) (rest : List (Instance S))
      (hold : Hold) (handed : hold ≠ .fresh)
      (idle : k.pool.idle = inst :: rest)
      (pool : k'.pool = { k.pool with idle := rest })
      (held : k'.held = k.held ++ [⟨c, inst, hold⟩]) :
      Effect k k' (some (.handedOut c inst.id))
  /-- A new instance is handed out. -/
  | created (c : C) (state : S) (hold : Hold) (handed : hold ≠ .fresh)
      (pool : k'.pool = (k.pool.create state).2)
      (held : k'.held = k.held ++ [⟨c, (k.pool.create state).1, hold⟩]) :
      Effect k k' (some (.handedOut c (k.pool.create state).1.id))
  /-- A new instance is made ahead of time. -/
  | prepared (c : C) (state : S)
      (pool : k'.pool = (k.pool.create state).2)
      (held : k'.held = k.held ++ [⟨c, (k.pool.create state).1, .fresh⟩]) :
      Effect k k' none
  /-- An instance goes to the pool, which keeps it or not. -/
  | returned (front : List (Possession C S)) (p : Possession C S)
      (back : List (Possession C S)) (was : k.held = front ++ p :: back)
      (held : k'.held = front ++ back)
      (pool : k'.pool = k.pool.put p.inst) :
      Effect k k' (some (.takenBack p.caller p.inst.id))
  /-- Instances are destroyed. -/
  | lost (pool : k'.pool = k.pool) (held : k'.held.Sublist k.held) :
      Effect k k' none
  /-- An instance is used, or loses its guard. -/
  | changed (front : List (Possession C S)) (p q : Possession C S)
      (back : List (Possession C S)) (was : k.held = front ++ p :: back)
      (held : k'.held = front ++ q :: back)
      (how : q = p.unguarded ∨ ∃ state, q = p.used state)
      (pool : k'.pool = k.pool) :
      Effect k k' none

/-- What a test finds in a row is what it takes out of the row. -/
theorem find?_eraseP {A : Type} {test : A → Bool} {p : A}
    {row : List A} (h : row.find? test = some p) :
    ∃ front back, row = front ++ p :: back
      ∧ row.eraseP test = front ++ back := by
  induction row with
  | nil => simp at h
  | cons q rest ih =>
    cases hq : test q with
    | true =>
      rw [List.find?_cons_of_pos hq] at h
      obtain rfl := Option.some.inj h
      exact ⟨[], rest, rfl, by simp [hq]⟩
    | false =>
      rw [List.find?_cons_of_neg (by simp [hq])] at h
      obtain ⟨front, back, hrow, herase⟩ := ih h
      refine ⟨q :: front, back, by simp [hrow], ?_⟩
      rw [List.eraseP_cons_of_neg (by simp [hq]), herase]
      rfl

/-- Giving back is a return, or nothing at all. -/
theorem giveBack_effect (k : Crowd C S) (test : Possession C S → Bool) :
    Effect k (k.giveBack test).1 (k.giveBack test).2 := by
  unfold giveBack pull?
  cases h : k.held.find? test with
  | none => exact .quiet rfl rfl
  | some p =>
    obtain ⟨front, back, hrow, herase⟩ := find?_eraseP h
    exact .returned front p back hrow herase rfl

theorem giveBack_pool {k : Crowd C S} {test : Possession C S → Bool}
    {p : Possession C S} (h : k.held.find? test = some p) :
    (k.giveBack test).1.pool = k.pool.put p.inst := by
  simp [giveBack, pull?, h]

theorem giveBack_activity (k : Crowd C S) (test : Possession C S → Bool) :
    (k.giveBack test).1.activity = k.activity := by
  unfold giveBack pull?
  cases k.held.find? test <;> rfl

/-- A change touches the possession that is found, or none. -/
theorem change_go (test : Possession C S → Bool)
    (f : Possession C S → Possession C S) (row : List (Possession C S)) :
    (row.find? test = none ∧ change.go test f row = row)
      ∨ ∃ front p back, row.find? test = some p ∧ row = front ++ p :: back
        ∧ change.go test f row = front ++ f p :: back := by
  induction row with
  | nil => exact .inl ⟨rfl, rfl⟩
  | cons p rest ih =>
    simp only [change.go, List.find?_cons]
    cases test p with
    | true => exact .inr ⟨[], p, rest, rfl, rfl, rfl⟩
    | false =>
      obtain ⟨hnone, hgo⟩ | ⟨front, q, back, hfind, hrow, hgo⟩ := ih
      · exact .inl ⟨hnone, congrArg (p :: ·) hgo⟩
      · exact .inr ⟨p :: front, q, back, hfind, congrArg (p :: ·) hrow,
          congrArg (p :: ·) hgo⟩

theorem change_effect (k : Crowd C S) (test : Possession C S → Bool)
    {f : Possession C S → Possession C S}
    (how : ∀ p, f p = p.unguarded ∨ ∃ state, f p = p.used state) :
    Effect k (k.change test f) none := by
  obtain ⟨-, h⟩ | ⟨front, p, back, -, hrow, hgo⟩ := change_go test f k.held
  · exact .quiet rfl h
  · exact .changed front p (f p) back hrow hgo (how p) rfl

theorem handedOut_ne_fresh (guarded : Bool) :
    Hold.handedOut guarded ≠ .fresh := by
  cases guarded <;> simp [Hold.handedOut]

/-! ## Steps -/

variable [DecidableEq C]

/-- A caller goes on with something else. -/
def turn (k : Crowd C S) (caller : C) (activity : Activity) : Crowd C S :=
  { k with activity := Function.update k.activity caller activity }

/-- A caller looks for an idle instance. -/
def lookFor (k : Crowd C S) (caller : C) (guarded : Bool) :
    Crowd C S × Option (Event C) :=
  match k.pool.pop? with
  | some (inst, pool) =>
    (k.hand pool ⟨caller, inst, .handedOut guarded⟩,
      some (.handedOut caller inst.id))
  | none => (k.turn caller (.configuring guarded), none)

/-- A caller configures an instance, if that is what it is at. -/
def configured (k : Crowd C S) (caller : C) (outcome : Option S) :
    Crowd C S × Option (Event C) :=
  match k.activity caller, outcome with
  | .configuring guarded, some state =>
    let (inst, pool) := k.pool.create state
    ((k.hand pool ⟨caller, inst, .handedOut guarded⟩).turn caller .free,
      some (.handedOut caller inst.id))
  | .configuring _, none => (k.turn caller .free, none)
  | .warming (left + 1), some state =>
    let (inst, pool) := k.pool.create state
    ((k.hand pool ⟨caller, inst, .fresh⟩).turn caller (.warming left), none)
  | .warming (_ + 1), none =>
    ({ k with held := k.held.filter (!·.isFresh caller) }.turn caller .free,
      none)
  | _, _ => (k, none)

/-- A caller puts an instance that it made ahead of time into the pool. -/
def stored (k : Crowd C S) (caller : C) : Crowd C S × Option (Event C) :=
  if k.held.any (·.isFresh caller) then k.giveBack (·.isFresh caller)
  else (k.turn caller .free, none)

/-- One step of one caller. -/
def step (k : Crowd C S) : Move C S → Crowd C S × Option (Event C)
  | .get c guarded =>
    if k.activity c = .free then k.lookFor c guarded else (k, none)
  | .configure c outcome => k.configured c outcome
  | .put c id =>
    if k.activity c = .free then k.giveBack (·.isHeld c .owned id)
    else (k, none)
  | .drop c id =>
    if k.activity c = .free then k.giveBack (·.isHeld c .guarded id)
    else (k, none)
  | .detach c id =>
    if k.activity c = .free then
      (k.change (·.isHeld c .guarded id) Possession.unguarded, none)
    else (k, none)
  | .discard c id =>
    if k.activity c = .free then
      ({ k with held := k.held.eraseP (·.isHeld c .owned id) }, none)
    else (k, none)
  | .use c id state =>
    if k.activity c = .free then
      (k.change (·.isUsable c id) (·.used state), none)
    else (k, none)
  | .warm c count =>
    if k.activity c = .free then (k.turn c (.warming count), none)
    else (k, none)
  | .store c =>
    if k.activity c = .warming 0 then k.stored c else (k, none)

/-- The steps of all callers in one order, and what can be seen of them. -/
def run (k : Crowd C S) : List (Move C S) → Crowd C S × List (Event C)
  | [] => (k, [])
  | m :: rest =>
    let (k, event) := k.step m
    let (k, events) := run k rest
    (k, event.toList ++ events)

theorem lookFor_effect (k : Crowd C S) (c : C) (guarded : Bool) :
    Effect k (k.lookFor c guarded).1 (k.lookFor c guarded).2 := by
  unfold lookFor Pool.pop?
  cases h : k.pool.idle with
  | nil => exact .quiet rfl rfl
  | cons inst rest =>
    exact .popped c inst rest _ (handedOut_ne_fresh guarded) h rfl rfl

theorem configured_effect (k : Crowd C S) (c : C) (outcome : Option S) :
    Effect k (k.configured c outcome).1 (k.configured c outcome).2 := by
  unfold configured
  split
  · rename_i guarded state _
    exact .created c state _ (handedOut_ne_fresh guarded) rfl rfl
  · exact .quiet rfl rfl
  · rename_i left state _
    exact .prepared c state rfl rfl
  · exact .lost rfl List.filter_sublist
  · exact .quiet rfl rfl

theorem stored_effect (k : Crowd C S) (c : C) :
    Effect k (k.stored c).1 (k.stored c).2 := by
  unfold stored
  split
  · exact giveBack_effect k _
  · exact .quiet rfl rfl

/-- **Every step has one of the effects.** -/
theorem step_effect (k : Crowd C S) (m : Move C S) :
    Effect k (k.step m).1 (k.step m).2 := by
  cases m with
  | configure c outcome => exact configured_effect k c outcome
  | get c guarded =>
    simp only [step]
    split
    · exact lookFor_effect k c guarded
    · exact .quiet rfl rfl
  | put c id =>
    simp only [step]
    split
    · exact giveBack_effect k _
    · exact .quiet rfl rfl
  | drop c id =>
    simp only [step]
    split
    · exact giveBack_effect k _
    · exact .quiet rfl rfl
  | detach c id =>
    simp only [step]
    split
    · exact change_effect k _ fun p => .inl rfl
    · exact .quiet rfl rfl
  | discard c id =>
    simp only [step]
    split
    · exact .lost rfl List.eraseP_sublist
    · exact .quiet rfl rfl
  | use c id state =>
    simp only [step]
    split
    · exact change_effect k _ fun p => .inr ⟨state, rfl⟩
    · exact .quiet rfl rfl
  | warm c count =>
    simp only [step]
    split
    · exact .quiet rfl rfl
    · exact .quiet rfl rfl
  | store c =>
    simp only [step]
    split
    · exact stored_effect k c
    · exact .quiet rfl rfl

/-! ## Runs -/

@[simp] theorem run_nil (k : Crowd C S) : k.run [] = (k, []) := rfl

theorem run_cons (k : Crowd C S) (m : Move C S) (rest : List (Move C S)) :
    k.run (m :: rest)
      = (((k.step m).1.run rest).1,
        (k.step m).2.toList ++ ((k.step m).1.run rest).2) := rfl

/-- What every step keeps, every run keeps. -/
theorem run_invariant {P : Crowd C S → Prop}
    (keep : ∀ k m, P k → P (k.step m).1) {k : Crowd C S} (h : P k)
    (moves : List (Move C S)) : P (k.run moves).1 := by
  induction moves generalizing k with
  | nil => exact h
  | cons m rest ih => exact ih (keep k m h)

theorem run_append (k : Crowd C S) (a b : List (Move C S)) :
    k.run (a ++ b)
      = (((k.run a).1.run b).1, (k.run a).2 ++ ((k.run a).1.run b).2) := by
  induction a generalizing k with
  | nil => rfl
  | cons m rest ih =>
    rw [List.cons_append, run_cons, run_cons, ih]
    simp only [List.append_assoc]

/-- An event that is seen comes from one step of the run. -/
theorem run_event {k : Crowd C S} {moves : List (Move C S)}
    {before after : List (Event C)} {e : Event C}
    (h : (k.run moves).2 = before ++ e :: after) :
    ∃ first m last, moves = first ++ m :: last
      ∧ ((k.run first).1.step m).2 = some e
      ∧ (((k.run first).1.step m).1.run last).2 = after := by
  induction moves generalizing k before with
  | nil => simp at h
  | cons m rest ih =>
    rw [run_cons] at h
    cases hm : (k.step m).2 with
    | none =>
      simp only [hm, Option.toList_none, List.nil_append] at h
      obtain ⟨first, m', last, hrest, he, hafter⟩ := ih h
      exact ⟨m :: first, m', last, by rw [hrest]; rfl, he, hafter⟩
    | some e' =>
      simp only [hm, Option.toList_some, List.cons_append,
        List.nil_append] at h
      cases before with
      | nil =>
        simp only [List.nil_append, List.cons.injEq] at h
        exact ⟨[], m, rest, rfl, by rw [run_nil, hm, h.1], h.2⟩
      | cons b before =>
        simp only [List.cons_append, List.cons.injEq] at h
        obtain ⟨first, m', last, hrest, he, hafter⟩ := ih h.2
        exact ⟨m :: first, m', last, by rw [hrest]; rfl, he, hafter⟩

/-! ## Operations that nobody interrupts -/

theorem turn_activity (k : Crowd C S) (c : C) (a : Activity) :
    (k.turn c a).activity c = a := by
  simp [turn]

/-- Looking for an instance and configuring one if need be is what the pool
does when it hands an instance out. -/
theorem run_get {E : Type} (k : Crowd C S) (c : C) (guarded : Bool)
    (configure : Except E S) (h : k.activity c = .free) :
    let k' := (k.run [.get c guarded, .configure c configure.toOption]).1
    k'.pool = (k.pool.get configure).2
      ∧ k'.held = k.held
        ++ ((k.pool.get configure).1.toOption.map
          (⟨c, ·, .handedOut guarded⟩)).toList := by
  simp only [run_cons, run_nil, step, if_pos h, lookFor, Pool.get, Pool.pop?]
  cases hidle : k.pool.idle with
  | cons inst rest =>
    simp [configured, hand, h, Except.toOption]
  | nil =>
    cases configure with
    | ok state =>
      simp [configured, turn, hand, Except.toOption]
    | error e =>
      simp [configured, turn, Except.toOption]

/-- To put or to let go of an instance is what the pool does when it takes
one back. -/
theorem step_put {k : Crowd C S} {c : C} {p : Possession C S}
    (free : k.activity c = .free)
    (h : k.held.find? (·.isHeld c .owned p.inst.id) = some p) :
    (k.step (.put c p.inst.id)).1.pool = k.pool.put p.inst := by
  simp only [step, if_pos free]
  exact giveBack_pool h

theorem step_drop {k : Crowd C S} {c : C} {p : Possession C S}
    (free : k.activity c = .free)
    (h : k.held.find? (·.isHeld c .guarded p.inst.id) = some p) :
    (k.step (.drop c p.inst.id)).1.pool = k.pool.put p.inst := by
  simp only [step, if_pos free]
  exact giveBack_pool h

/-- To run a script on an instance is to use it: its caller then has what is
left of the instance, and nothing else has changed. -/
theorem step_use {F R : Type} {k : Crowd C (Interpreter F)} {c : C}
    {p : Possession C (Interpreter F)} (free : k.activity c = .free)
    (h : k.held.find? (·.isUsable c p.inst.id) = some p)
    (program : StateM (World F) (Ended R)) (request : Request)
    (shared : Shared) :
    let inst := (p.inst.execute program request shared).inst
    let k' := (k.step (.use c p.inst.id inst.state)).1
    k'.pool = k.pool ∧ ∃ front back, k.held = front ++ p :: back
      ∧ k'.held = front ++ { p with inst := inst } :: back := by
  intro inst k'
  have hstep : k' = k.change (·.isUsable c p.inst.id) (·.used inst.state) := by
    simp only [k', step, if_pos free]
  rw [hstep]
  obtain ⟨hnone, -⟩ | ⟨front, q, back, hfind, hrow, hgo⟩ :=
    change_go (·.isUsable c p.inst.id) (·.used inst.state) k.held
  · cases h.symm.trans hnone
  · obtain rfl := Option.some.inj (h.symm.trans hfind)
    exact ⟨rfl, front, back, hrow, hgo⟩

/-- The moves of a caller that makes instances ahead of time. -/
def warmMoves (c : C) (outcome : Option S) (count : Nat) :
    List (Move C S) :=
  .warm c count :: (List.replicate count (.configure c outcome)
    ++ List.replicate count (.store c))

/-- Nothing more comes of the moves of a warm-up that has failed. -/
theorem run_free {k : Crowd C S} {c : C} {moves : List (Move C S)}
    (free : k.activity c = .free)
    (h : ∀ m ∈ moves, m = .store c ∨ ∃ outcome, m = .configure c outcome) :
    (k.run moves).1 = k := by
  induction moves with
  | nil => rfl
  | cons m rest ih =>
    have hm : (k.step m).1 = k := by
      rcases h m (by simp) with rfl | ⟨outcome, rfl⟩
      · simp [step, free]
      · simp [step, configured, free]
    rw [run_cons, hm]
    exact ih fun m hm => h m (by simp [hm])

/-- Making instances one by one is what the pool does when it prepares
them. -/
theorem run_prepare {E : Type} (c : C) (state : S) (count : Nat) :
    ∀ k : Crowd C S, k.activity c = .warming count →
      ∃ fresh, fresh.length = count
        ∧ Pool.prepare (.ok state : Except E S) k.pool count
          = (.ok fresh, (k.run
              (List.replicate count (.configure c (some state)))).1.pool)
        ∧ (k.run (List.replicate count (.configure c (some state)))).1.held
          = k.held ++ fresh.map (⟨c, ·, .fresh⟩)
        ∧ (k.run (List.replicate count
            (.configure c (some state)))).1.activity c = .warming 0 := by
  induction count with
  | zero => intro k h; exact ⟨[], rfl, rfl, by simp, h⟩
  | succ n ih =>
    intro k h
    have hstep : (k.step (.configure c (some state))).1
        = (k.hand (k.pool.create state).2
            ⟨c, (k.pool.create state).1, .fresh⟩).turn c (.warming n) := by
      simp [step, configured, h, Pool.create]
    obtain ⟨fresh, hlen, hprep, hheld, hact⟩ :=
      ih ((k.hand (k.pool.create state).2
        ⟨c, (k.pool.create state).1, .fresh⟩).turn c (.warming n))
        (turn_activity _ _ _)
    refine ⟨(k.pool.create state).1 :: fresh, by simp [hlen], ?_, ?_, ?_⟩
    · rw [List.replicate_succ, run_cons, hstep]
      simp only [Pool.prepare]
      rw [show (k.pool.create state).2 = ((k.hand (k.pool.create state).2
        ⟨c, (k.pool.create state).1, .fresh⟩).turn c (.warming n)).pool
        from rfl, hprep]
      rfl
    · rw [List.replicate_succ, run_cons, hstep, hheld]
      simp [turn, hand]
    · rw [List.replicate_succ, run_cons, hstep, hact]

/-- Storing instances one by one is putting them in the order in which they
were made. -/
theorem run_store (c : C) (fresh : List (Instance S)) :
    ∀ (k : Crowd C S) (others : List (Possession C S)),
      k.activity c = .warming 0 →
      k.held = others ++ fresh.map (⟨c, ·, .fresh⟩) →
      (∀ p ∈ others, p.isFresh c = false) →
      (k.run (List.replicate fresh.length (.store c))).1.pool
        = fresh.foldl Pool.put k.pool := by
  induction fresh with
  | nil => intro k others _ _ _; rfl
  | cons inst rest ih =>
    intro k others hact hheld hothers
    have hnone : others.find? (·.isFresh c) = none := by
      rw [List.find?_eq_none]
      intro p hp
      simp [hothers p hp]
    have hfind : k.held.find? (·.isFresh c)
        = some ⟨c, inst, .fresh⟩ := by
      rw [hheld, List.find?_append, hnone]
      simp [Possession.isFresh]
    have hany : k.held.any (·.isFresh c) = true :=
      List.any_eq_true.mpr
        ⟨_, List.mem_of_find?_eq_some hfind, by simp [Possession.isFresh]⟩
    have herase : k.held.eraseP (·.isFresh c)
        = others ++ rest.map (⟨c, ·, .fresh⟩) := by
      rw [hheld, List.eraseP_append_right _
        (fun p hp => by simp [hothers p hp])]
      simp [Possession.isFresh]
    have hstep : (k.step (.store c)).1
        = { k with
            held := others ++ rest.map (⟨c, ·, .fresh⟩)
            pool := k.pool.put inst } := by
      simp only [step, if_pos hact, stored, if_pos hany, giveBack, pull?,
        hfind, herase]
    rw [List.length_cons, List.replicate_succ, run_cons, hstep]
    exact ih _ others hact rfl hothers

/-- Making instances ahead of time, step by step, is what the pool does when
it is warmed. -/
theorem run_warm {E : Type} (k : Crowd C S) (c : C)
    (configure : Except E S) (count : Nat) (free : k.activity c = .free)
    (none_fresh : ∀ p ∈ k.held, p.isFresh c = false) :
    (k.run (warmMoves c configure.toOption count)).1.pool
      = (k.pool.warm configure count).2 := by
  have hbegin : (k.step (.warm c count)).1 = k.turn c (.warming count) := by
    simp [step, free]
  rw [warmMoves, run_cons, hbegin]
  cases configure with
  | ok state =>
    rw [run_append]
    obtain ⟨fresh, hlen, hprep, hheld, hact⟩ :=
      run_prepare (E := E) c state count (k.turn c (.warming count))
        (turn_activity _ _ _)
    simp only [Except.toOption, Pool.warm]
    rw [show k.pool = (k.turn c (.warming count)).pool from rfl, hprep,
      ← hlen]
    exact run_store c fresh _ k.held (hlen ▸ hact) (hlen ▸ hheld) none_fresh
  | error e =>
    cases count with
    | zero => rfl
    | succ n =>
      have hfail : ((k.turn c (.warming (n + 1))).step
            (.configure c none)).1.activity c = .free
          ∧ ((k.turn c (.warming (n + 1))).step
            (.configure c none)).1.pool = k.pool := by
        simp [step, configured, turn]
      rw [show (Except.error e : Except E S).toOption = none from rfl,
        List.replicate_succ, List.cons_append, run_cons,
        run_free hfail.1 (by
          intro m hm
          rcases List.mem_append.mp hm with hm | hm
          · exact .inr ⟨none, List.eq_of_mem_replicate hm⟩
          · exact .inl (List.eq_of_mem_replicate hm)), hfail.2]
      rfl

end Crowd

end ScriptHost
