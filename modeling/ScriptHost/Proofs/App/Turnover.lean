/-
ScriptHost.Proofs.App.Turnover — how a host uses its instances up.

A host that runs one script file after another, with nobody else at its
pool, never has more than one instance. It makes the first one when it
starts, uses it until the policy calls it worn, and makes another when the
next script comes. So what the pool counts follows from the number of
scripts that could be read (`Pool.Turnover`). A file that cannot be read
takes an instance out and puts it back, which may make one too early but
wears none.

`start_ok` says that a host always starts, and `serve_turnover` is the main
statement.
-/
import ScriptHost.App.Application
import ScriptHost.Proofs.Engine.Configured

namespace ScriptHost

/-! ## One instance at a time -/

namespace Pool

variable {S E : Type}

/-- How many instances are worn out after so many uses. -/
def wornOut (policy : PoolPolicy) (n : Nat) : Nat :=
  match policy.maxUses with
  | some most => n / most
  | none => 0

/-- How often the present instance has been used then. -/
def wear (policy : PoolPolicy) (n : Nat) : Nat :=
  match policy.maxUses with
  | some most => n % most
  | none => n

/-- A pool that has had one user, after so many uses: its instance waits, or
the latest one is worn out. -/
structure Turnover (policy : PoolPolicy) (n : Nat) (p : Pool S) :
    Prop where
  same : p.policy = policy
  dropped : p.dropped = wornOut policy n
  created : p.created = p.dropped + p.idle.length
  present : (∃ inst, p.idle = [inst] ∧ inst.uses = wear policy n)
    ∨ p.idle = [] ∧ wear policy n = 0 ∧ policy.maxUses.isSome = true

/-- That pool while its user has the instance. -/
structure Lent (policy : PoolPolicy) (n : Nat) (inst : Instance S)
    (p : Pool S) : Prop where
  same : p.policy = policy
  dropped : p.dropped = wornOut policy n
  created : p.created = p.dropped + 1
  idle : p.idle = []
  uses : inst.uses = wear policy n

section Turnover

variable {policy : PoolPolicy} {n : Nat} {p : Pool S} {inst : Instance S}
  (pos : ∀ most, policy.maxUses = some most → 1 ≤ most)
  (room : ∀ most, policy.maxIdle = some most → 1 ≤ most)

/-- One more use makes one more round of the limit, or one more use in the
same round. -/
theorem succ_round {most : Nat} (pos : 1 ≤ most) (n : Nat) :
    (n % most + 1 = most → (n + 1) / most = n / most + 1
        ∧ (n + 1) % most = 0)
      ∧ (n % most + 1 ≠ most → (n + 1) / most = n / most
        ∧ (n + 1) % most = n % most + 1) := by
  have hn : n % most + most * (n / most) = n := Nat.mod_add_div n most
  have hlt : n % most < most := Nat.mod_lt n pos
  constructor
  · intro hlast
    rw [Nat.div_mod_unique pos, Nat.mul_add]
    omega
  · intro hmore
    rw [Nat.div_mod_unique pos]
    omega

include pos

theorem wear_unworn (uses : inst.uses = wear policy n) :
    isWorn policy inst = false := by
  unfold wear at uses
  unfold isWorn
  cases hmost : policy.maxUses with
  | none => rfl
  | some most =>
    rw [hmost] at uses
    simpa [uses] using Nat.mod_lt n (pos most hmost)

/-- One more use wears the instance out, or is one more of its uses. -/
theorem wear_succ (uses : inst.uses = wear policy n + 1) :
    (isWorn policy inst = true ∧ policy.maxUses.isSome = true
        ∧ wornOut policy (n + 1) = wornOut policy n + 1
        ∧ wear policy (n + 1) = 0)
      ∨ (isWorn policy inst = false
        ∧ wornOut policy (n + 1) = wornOut policy n
        ∧ wear policy (n + 1) = inst.uses) := by
  unfold wear at uses
  unfold wear wornOut isWorn
  cases hmost : policy.maxUses with
  | none =>
    rw [hmost] at uses
    exact .inr ⟨rfl, rfl, uses.symm⟩
  | some most =>
    rw [hmost] at uses
    have uses : inst.uses = n % most + 1 := uses
    have hlt : n % most < most := Nat.mod_lt n (pos most hmost)
    obtain ⟨hlast, hmore⟩ := succ_round (pos most hmost) n
    by_cases hworn : n % most + 1 = most
    · exact .inl ⟨by simp only [decide_eq_true_eq]; omega, rfl, hlast hworn⟩
    · obtain ⟨hdiv, hmod⟩ := hmore hworn
      exact .inr ⟨by simp only [decide_eq_false_iff_not]; omega, hdiv,
        hmod.trans uses.symm⟩

omit pos

theorem Turnover.get (h : Turnover policy n p) {configure : Except E S}
    {state : S} (makes : configure = .ok state) :
    ∃ inst p', p.get configure = (.ok inst, p')
      ∧ Lent policy n inst p' := by
  obtain ⟨same, dropped, created, present⟩ := h
  rcases present with ⟨inst, hidle, huses⟩ | ⟨hidle, hwear, -⟩
  · refine ⟨inst, { p with idle := [] }, by simp [Pool.get, pop?, hidle], same,
      dropped, ?_, rfl, huses⟩
    rw [created, hidle]
    rfl
  · refine ⟨(p.create state).1, (p.create state).2,
      by simp [Pool.get, pop?, hidle, makes], same, dropped, ?_, hidle,
      hwear.symm⟩
    show p.created + 1 = p.dropped + 1
    rw [created, hidle]
    rfl

include room

theorem Lent.put_unworn (h : Lent policy n inst p) {inst' : Instance S}
    (unworn : isWorn policy inst' = false) :
    p.put inst' = { p with idle := [inst'] } := by
  have hfull : p.isFull = false := by
    unfold isFull
    rw [h.same, h.idle]
    cases hmost : policy.maxIdle with
    | none => rfl
    | some most => simpa using Nat.ne_of_gt (room most hmost)
  rw [put, h.same, unworn, hfull, h.idle]
  rfl

include pos

/-- What comes back unused waits again. -/
theorem Lent.put_unused (h : Lent policy n inst p) :
    Turnover policy n (p.put inst) := by
  rw [h.put_unworn room (wear_unworn pos h.uses)]
  exact ⟨h.same, h.dropped, h.created, .inl ⟨inst, rfl, h.uses⟩⟩

/-- What was used waits again, or is worn out. -/
theorem Lent.put_used (h : Lent policy n inst p) {inst' : Instance S}
    (used : inst'.uses = inst.uses + 1) :
    Turnover policy (n + 1) (p.put inst') := by
  rcases wear_succ pos (used.trans (by rw [h.uses])) with
    ⟨hworn, hlimit, hout, hwear⟩ | ⟨hunworn, hout, hwear⟩
  · have hput : p.put inst' = { p with dropped := p.dropped + 1 } := by
      rw [put, h.same, hworn]
      rfl
    rw [hput]
    refine ⟨h.same, ?_, ?_, .inr ⟨h.idle, hwear, hlimit⟩⟩
    · show p.dropped + 1 = _
      rw [hout, h.dropped]
    · show p.created = p.dropped + 1 + p.idle.length
      rw [h.created, h.idle]
      rfl
  · rw [h.put_unworn room hunworn]
    exact ⟨h.same, h.dropped.trans hout.symm, h.created,
      .inl ⟨inst', rfl, hwear.symm⟩⟩

end Turnover

/-- The first instance of a new pool, before it waits. -/
theorem lent_create (policy : PoolPolicy) (state : S) :
    Lent policy 0 (({ policy := policy } : Pool S).create state).1
      (({ policy := policy } : Pool S).create state).2 := by
  refine ⟨rfl, ?_, rfl, rfl, ?_⟩
  · unfold wornOut
    cases policy.maxUses with
    | none => rfl
    | some most => exact (Nat.zero_div most).symm
  · unfold wear
    cases policy.maxUses with
    | none => rfl
    | some most => exact (Nat.zero_mod most).symm

end Pool

/-! ## A host and its scripts -/

namespace Engine

variable {F : Type} {e : Engine F} {p p' : Pool (Interpreter F)}
  {inst : Instance (Interpreter F)}

theorem get_eq (pool : e.pool = some p)
    (handed : p.get e.blueprint.configure = (.ok inst, p')) :
    e.get = (.ok inst, { e with pool := some p' }) := by
  unfold Engine.get
  rw [pool]
  simp only [handed]

/-- An engine with its first instance in its pool. -/
def primed (b : Blueprint F) (shared : Shared) (i : Interpreter F) :
    Engine F :=
  let (inst, p) :=
    ({ policy := b.context.config.pool } : Pool (Interpreter F)).create i
  { blueprint := b, pool := some (p.put inst), shared := shared }

/-- An engine makes its first instance where it can configure one. -/
theorem warm_start {b : Blueprint F} {shared : Shared} :
    (Engine.start b shared).warm 1 = (.ok (), e)
      ↔ ∃ i, b.configure = .ok i ∧ e = primed b shared i := by
  unfold Engine.start Engine.warm
  cases b.configure with
  | error fault =>
    constructor
    · intro warmed
      cases warmed
    · rintro ⟨_, configured, -⟩
      cases configured
  | ok i =>
    constructor
    · intro warmed
      exact ⟨i, rfl, (Prod.mk.inj warmed).2.symm⟩
    · rintro ⟨_, configured, rfl⟩
      cases configured
      rfl

/-- Something runs on the instance that the pool hands out, which then goes
back. -/
theorem withInstance_eq (pool : e.pool = some p)
    (handed : p.get e.blueprint.configure = (.ok inst, p'))
    (run : Instance (Interpreter F) → Shared → Executed F (List Run)) :
    let done := run inst e.shared
    e.withInstance run = ((done.outcome, done.report),
      { e with shared := done.shared, pool := some (p'.put done.inst) }) := by
  unfold withInstance
  rw [get_eq pool handed]
  rfl

variable [Dispatch F]

/-- A run of a file that can be read is one use, whatever comes of it. -/
theorem runFile_uses {path : String} {request : Request} {shared : Shared}
    {text : String} (readable : shared.files.readText path = .ok text) :
    (runFile path request inst shared).inst.uses = inst.uses + 1 := by
  unfold runFile
  rw [readable]
  rfl

theorem runFile_unreadable {path : String} {request : Request}
    {shared : Shared} {fault : IoFault}
    (unreadable : shared.files.readText path = .error fault) :
    (runFile path request inst shared).inst = inst := by
  unfold runFile
  rw [unreadable]

end Engine

namespace App

/-! ### Starting -/

/-- Nothing in the catalog is refused. -/
theorem bindable_catalog (host : Option HostContext) :
    Binder.Bindable Capability.catalog (.fresh host) where
  modules := by decide +kernel
  factories := by decide +kernel
  apart := by decide +kernel
  globals := by
    have hfree : ∀ name ∈ Binder.registryNames Capability.catalog,
        (Interpreter.fresh none : ScriptInterpreter).global name = .nil := by
      decide +kernel
    exact hfree
  types _ _ := rfl
  fields := by
    have hfields : ∀ m ∈ Capability.modules,
        (m.method? Binder.indexField).isNone
          ∧ (m.method? Binder.nameField).isNone := by
      decide +kernel
    intro m hm _
    exact ⟨Option.isNone_iff_eq_none.mp (hfields m hm).1,
      Option.isNone_iff_eq_none.mp (hfields m hm).2⟩

/-- A host starts where it can make its first instance. -/
theorem start_eq_ok {context : HostContext} {directory : String}
    {shared : Shared} {e : Engine Capability} :
    start context directory shared = .ok e
      ↔ ∃ e', (Engine.start (blueprint context directory) shared).warm 1
          = (.ok (), e') ∧ e = e'.attach := by
  -- The function is opened without its arguments, and the catalog is out of
  -- sight before the match is looked at: otherwise all of it would be bound.
  obtain ⟨f, hf⟩ : ∃ f, @start = f := ⟨_, rfl⟩
  rw [hf]
  delta start at hf
  rw [← hf]
  clear hf
  beta_reduce
  generalize blueprint context directory = b
  generalize (Engine.start b shared).warm 1 = warmed
  rcases warmed with ⟨fault | done, e'⟩
  · constructor
    · intro h
      cases h
    · rintro ⟨_, h, -⟩
      cases h
  · constructor
    · exact fun h => ⟨e', rfl, (Except.ok.inj h).symm⟩
    · rintro ⟨_, h, rfl⟩
      obtain rfl := (Prod.mk.inj h).2
      rfl

/-- **A host always starts**, for nothing in the catalog is refused. -/
theorem start_ok (context : HostContext) (directory : String)
    (shared : Shared) : ∃ e, start context directory shared = .ok e := by
  obtain ⟨_, -, -, configured⟩ := (blueprint context directory).configure_ok
    (bindable_catalog _)
  exact ⟨_, start_eq_ok.mpr ⟨_, Engine.warm_start.mpr ⟨_, configured, rfl⟩, rfl⟩⟩

/-! ### Serving -/

/-- A call for a script file. Before it anything may happen to what is
shared, but nobody else comes to the pool. -/
structure Errand where
  path : String
  meanwhile : Shared → Shared := id

namespace Errand

/-- The host when it is called. -/
def before (r : Errand) (e : Engine Capability) : Engine Capability :=
  { e with shared := r.meanwhile e.shared }

/-- Can the file be read then? -/
def isReadable (r : Errand) (e : Engine Capability) : Bool :=
  ((r.before e).shared.files.readText r.path).isOk

/-- The call. -/
def run (r : Errand) (e : Engine Capability) :
    (Except AppError Response × List Run) × Engine Capability :=
  runScript r.path (r.before e)

end Errand

/-- Calls one after another: how many of the files could be read, and the
host after them. -/
def serve : List Errand → Engine Capability → Nat × Engine Capability
  | [], e => (0, e)
  | r :: rest, e =>
    let (n, e') := serve rest (r.run e).2
    ((r.isReadable e).toNat + n, e')

/-- A host whose pool has served so many scripts. -/
structure Serving (b : Blueprint Capability) (n : Nat)
    (e : Engine Capability) : Prop where
  blueprint : e.blueprint = b
  pool : ∃ p, e.pool = some p ∧ p.Turnover b.context.config.pool n

variable {b : Blueprint Capability} {n : Nat} {e : Engine Capability}
  {i : ScriptInterpreter}
  (pos : ∀ most, b.context.config.pool.maxUses = some most → 1 ≤ most)
  (room : ∀ most, b.context.config.pool.maxIdle = some most → 1 ≤ most)

/-- A script of the host ends as it does for any caller. -/
theorem runScript_eq {path : String} {e e' : Engine Capability}
    {outcome : Except HostError Response} {runs : List Run}
    (h : e.withInstance (Engine.runFile path .internal)
      = ((outcome, runs), e')) :
    runScript path e = ((outcome.mapError (.script path), runs), e') := by
  unfold runScript
  rw [h]
  cases outcome <;> rfl

/-- The instance on which a call runs, and what it leaves. -/
theorem Serving.run (h : Serving b n e) (configured : b.configure = .ok i)
    (r : Errand) :
    ∃ (inst : Instance ScriptInterpreter) (p : Pool ScriptInterpreter),
      e.get.1 = .ok inst ∧ p.Lent b.context.config.pool n inst
      ∧ let done := Engine.runFile r.path .internal inst
          (r.before e).shared
        r.run e = ((done.outcome.mapError (.script r.path), done.report),
          { e with shared := done.shared, pool := some (p.put done.inst) })
      := by
  obtain ⟨p, hpool, hturn⟩ := h.pool
  have makes : e.blueprint.configure = .ok i := h.blueprint ▸ configured
  obtain ⟨inst, p', hget, hlent⟩ := hturn.get makes
  refine ⟨inst, p', by rw [Engine.get_eq hpool hget], hlent, ?_⟩
  exact runScript_eq (Engine.withInstance_eq (e := r.before e) hpool hget
    (Engine.runFile r.path .internal))

include pos room in
/-- **A call counts as a use where the file can be read**, and leaves the
pool with no more than the one instance. -/
theorem Serving.step (h : Serving b n e) (configured : b.configure = .ok i)
    (r : Errand) :
    Serving b ((r.isReadable e).toNat + n) (r.run e).2 := by
  obtain ⟨inst, p, -, hlent, hrun⟩ := h.run configured r
  rw [hrun]
  refine ⟨h.blueprint, _, rfl, ?_⟩
  unfold Errand.isReadable
  cases hread : (r.before e).shared.files.readText r.path with
  | ok text =>
    rw [Except.isOk, Except.toBool, Bool.toNat_true, Nat.add_comm]
    exact hlent.put_used pos room (Engine.runFile_uses hread)
  | error fault =>
    rw [Except.isOk, Except.toBool, Bool.toNat_false, Nat.zero_add,
      Engine.runFile_unreadable hread]
    exact hlent.put_unused pos room

include pos room in
theorem Serving.serve (configured : b.configure = .ok i)
    (errands : List Errand) :
    ∀ {n : Nat} {e : Engine Capability}, Serving b n e →
      Serving b (n + (serve errands e).1) (serve errands e).2 := by
  induction errands with
  | nil => exact fun h => h
  | cons r rest ih =>
    intro n e h
    have hrest := ih (h.step pos room configured r)
    rw [Nat.add_comm _ n, Nat.add_assoc] at hrest
    exact hrest

/-- A host that has started can make instances, and has one. -/
theorem serving_start {b : Blueprint Capability} {shared : Shared}
    {e : Engine Capability}
    (warmed : (Engine.start b shared).warm 1 = (.ok (), e))
    (pos : ∀ most, b.context.config.pool.maxUses = some most → 1 ≤ most)
    (room : ∀ most, b.context.config.pool.maxIdle = some most → 1 ≤ most) :
    (∃ i, b.configure = .ok i) ∧ Serving b 0 e.attach := by
  obtain ⟨i, configured, rfl⟩ := Engine.warm_start.mp warmed
  exact ⟨⟨i, configured⟩, rfl, _, rfl,
    (Pool.lent_create _ i).put_unused pos room⟩

/-- **A host accounts for its instances.** However many script files a
started host is asked to run, with nobody else at its pool: without a limit
of uses it goes on with its first instance for good. With one, that many
scripts wear an instance out; a script that could be read counts, whether or
not it ended well. No more than one instance waits, and every one that was
made waits or is worn out. Whatever comes next runs on an instance that has
run those that were left over when the last one was worn out. -/
theorem serve_turnover {context : HostContext} {directory : String}
    {shared : Shared} {e : Engine Capability}
    (started : start context directory shared = .ok e)
    (room : ∀ most, context.config.pool.maxIdle = some most → 1 ≤ most)
    (errands : List Errand) :
    let n := (serve errands e).1
    let e' := (serve errands e).2
    (context.config.pool.maxUses = none →
        e'.stats = { created := 1, idle := 1, dropped := 0 })
      ∧ ∀ most, context.config.pool.maxUses = some most → 1 ≤ most →
        e'.stats.dropped = n / most
          ∧ e'.stats.created = e'.stats.dropped + e'.stats.idle
          ∧ e'.stats.idle ≤ 1
          ∧ ∀ r : Errand, ∃ inst, e'.get.1 = .ok inst
            ∧ inst.uses = n % most
            ∧ let done := Engine.runFile r.path .internal inst
                (r.before e').shared
              (r.run e').1
                  = (done.outcome.mapError (.script r.path), done.report)
                ∧ (r.run e').2.shared = done.shared := by
  intro n e'
  have served : (∀ most, context.config.pool.maxUses = some most → 1 ≤ most) →
      (∃ i, (blueprint context directory).configure = .ok i)
        ∧ Serving (blueprint context directory) n e' := by
    intro pos
    obtain ⟨_, warmed, rfl⟩ := start_eq_ok.mp started
    obtain ⟨⟨i, configured⟩, h⟩ := serving_start warmed pos room
    have hserve := h.serve pos room configured errands
    rw [Nat.zero_add] at hserve
    exact ⟨⟨i, configured⟩, hserve⟩
  constructor
  · intro unlimited
    obtain ⟨-, -, p, hpool, hturn⟩ := served (by simp [unlimited])
    have hout : p.dropped = 0 := by
      rw [hturn.dropped, Pool.wornOut, blueprint, unlimited]
    obtain ⟨inst, hidle, -⟩ := hturn.present.resolve_right fun h => by
      simp [blueprint, unlimited] at h
    rw [Engine.stats, hpool]
    simp [Pool.stats, hturn.created, hout, hidle]
  · intro most limit pos
    obtain ⟨⟨i, configured⟩, h⟩ := served fun most' limit' => by
      rw [limit] at limit'
      exact Option.some.inj limit' ▸ pos
    obtain ⟨p, hpool, hturn⟩ := h.pool
    have hstats : e'.stats = p.stats := by rw [Engine.stats, hpool]
    rw [hstats]
    refine ⟨?_, hturn.created, ?_, fun r => ?_⟩
    · show p.dropped = n / most
      rw [hturn.dropped, Pool.wornOut, blueprint, limit]
    · show p.idle.length ≤ 1
      rcases hturn.present with ⟨inst, hidle, -⟩ | ⟨hidle, -⟩ <;> simp [hidle]
    · obtain ⟨inst, p', hget, hlent, hrun⟩ := h.run configured r
      refine ⟨inst, hget, ?_, by rw [hrun], by rw [hrun]⟩
      rw [hlent.uses, Pool.wear, blueprint, limit]

/-- A host that wears its instances out after two scripts. -/
def rotatingHost : HostContext :=
  { config := { pool := { maxIdle := some 1, maxUses := some 2 } } }

/-- An empty script, and a file that is no script. -/
def twoFiles : Files := { entries := [(["a"], []), (["b"], [0])] }

/-- Calls for a script, for a file that is not there, for a file that is no
script, and for the script again. -/
def rotation : List Errand :=
  ["a", "c", "b", "a"].map fun path =>
    { path := path
      meanwhile := fun shared => { shared with files := twoFiles } }

/-- The two files can be read, and there is no third one. -/
theorem isOk_twoFiles : ∀ path ∈ ["a", "b", "c"],
    (twoFiles.readText path).isOk = decide (path ≠ "c") := by
  intro path hpath
  -- Splitting is a loop that only its equations open.
  have split : Files.splitPath path = [path] := by
    obtain rfl | rfl | rfl : path = "a" ∨ path = "b" ∨ path = "c" := by
      simpa using hpath
    all_goals
      rw [Files.splitPath, String.splitOn, if_neg (by decide),
        String.splitOnAux, if_neg (by decide), if_neg (by decide),
        String.splitOnAux, if_pos (by decide)]
      decide
  rw [Files.readText, Files.find, split]
  clear split
  revert path
  decide +kernel

/-- What can be read is known before anything has run. -/
theorem readable_rotation (e : Engine Capability) :
    (serve rotation e).1 = 3 := by
  simp [serve, rotation, Errand.isReadable, Errand.before, isOk_twoFiles]

theorem serve_rotation :
    ∃ e, start rotatingHost "" {} = .ok e
      ∧ (serve rotation e).2.stats.dropped = 1
      ∧ ∃ inst, (serve rotation e).2.get.1 = .ok inst ∧ inst.uses = 1 := by
  obtain ⟨e, started⟩ := start_ok rotatingHost "" {}
  have room : ∀ most, rotatingHost.config.pool.maxIdle = some most →
      1 ≤ most := by
    rintro most ⟨⟩
    exact Nat.le_refl 1
  obtain ⟨hdropped, -, -, hnext⟩ :=
    (serve_turnover started room rotation).2 2 rfl (by decide)
  rw [readable_rotation] at hdropped
  obtain ⟨inst, hget, huses, -⟩ := hnext { path := "a" }
  rw [readable_rotation] at huses
  exact ⟨e, started, hdropped, inst, hget, huses⟩

end App

end ScriptHost
