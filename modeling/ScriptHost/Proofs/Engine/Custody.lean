/-
ScriptHost.Proofs.Engine.Custody — where the instances of an engine come
from, whatever callers and time do.

`Engine.Every P` says that every instance that waits has the property `P`,
and every new one; `Custody.Every P` says it of those in the hands of
callers as well. Each operation keeps it, if the runs of the operation keep
`P` (`Engine.Every.withInstance`, `Engine.Every.advance`,
`Custody.Every.run`, `Custody.Every.perform`).
-/
import ScriptHost.Engine.Custody
import ScriptHost.Proofs.Data.KeyMap

namespace ScriptHost

/-! ## Pools -/

namespace Pool

variable {S E : Type} {p : Pool S} {configure : Except E S}

theorem mem_put {inst inst' : Instance S} (h : inst' ∈ (p.put inst).idle) :
    inst' = inst ∨ inst' ∈ p.idle := by
  unfold put at h
  split at h
  · exact .inr h
  · exact List.mem_cons.mp h

theorem mem_foldl_put (row : List (Instance S)) :
    ∀ {p : Pool S} {inst : Instance S}, inst ∈ (row.foldl put p).idle →
      inst ∈ row ∨ inst ∈ p.idle := by
  induction row with
  | nil => exact fun h => .inr h
  | cons inst rest ih =>
    intro p inst' h
    rcases ih h with h | h
    · exact .inl (List.mem_cons_of_mem _ h)
    · rcases mem_put h with rfl | h
      · exact .inl List.mem_cons_self
      · exact .inr h

theorem mem_get {inst : Instance S} (h : inst ∈ (p.get configure).2.idle) :
    inst ∈ p.idle := by
  unfold get pop? at h
  cases hidle : p.idle with
  | cons first rest =>
    rw [hidle] at h
    exact List.mem_cons_of_mem _ h
  | nil =>
    rw [hidle] at h
    cases configure <;> exact hidle ▸ h

/-- What is handed out waited, or is new. -/
theorem get_ok {inst : Instance S} (h : (p.get configure).1 = .ok inst) :
    inst ∈ p.idle
      ∨ ∃ id s, configure = .ok s ∧ inst = { id := id, state := s } := by
  unfold get pop? at h
  cases hidle : p.idle with
  | cons first rest =>
    rw [hidle] at h
    cases h
    exact .inl List.mem_cons_self
  | nil =>
    rw [hidle] at h
    cases configure with
    | ok s =>
      cases h
      exact .inr ⟨_, s, rfl, rfl⟩
    | error e => cases h

theorem prepare_origin (configure : Except E S) (count : Nat) :
    ∀ p : Pool S, (prepare configure p count).2.idle = p.idle
      ∧ ∀ row, (prepare configure p count).1 = .ok row → ∀ inst ∈ row,
        ∃ id s, configure = .ok s ∧ inst = { id := id, state := s } := by
  induction count with
  | zero =>
    intro p
    refine ⟨rfl, fun row hrow => ?_⟩
    cases hrow
    simp
  | succ n ih =>
    intro p
    cases configure with
    | error e => exact ⟨rfl, nofun⟩
    | ok s =>
      obtain ⟨hidle, hall⟩ := ih (p.create s).2
      refine ⟨hidle, fun row hrow => ?_⟩
      simp only [prepare] at hrow
      cases hothers : (prepare (.ok s : Except E S) (p.create s).2 n).1 with
      | error e =>
        rw [hothers] at hrow
        cases hrow
      | ok others =>
        rw [hothers] at hrow
        cases hrow
        exact List.forall_mem_cons.mpr
          ⟨⟨_, s, rfl, rfl⟩, hall others hothers⟩

/-- What waits after a warm-up waited before, or is new. -/
theorem mem_warm {count : Nat} {inst : Instance S}
    (h : inst ∈ (p.warm configure count).2.idle) :
    inst ∈ p.idle
      ∨ ∃ id s, configure = .ok s ∧ inst = { id := id, state := s } := by
  obtain ⟨hidle, hall⟩ := prepare_origin configure count p
  unfold warm at h
  rcases hprepare : prepare configure p count with ⟨e | row, p'⟩
  · rw [hprepare] at h hidle
    exact .inl (hidle ▸ h)
  · rw [hprepare] at h hidle hall
    rcases mem_foldl_put row h with h | h
    · exact .inr (hall row rfl inst h)
    · exact .inl (hidle ▸ h)

end Pool

/-! ## Engines -/

namespace Engine

variable {F : Type} {P : Instance (Interpreter F) → Prop} {e : Engine F}

/-- Every instance that waits has a property, and every new one. -/
structure Every (P : Instance (Interpreter F) → Prop) (e : Engine F) :
    Prop where
  waits : ∀ p, e.pool = some p → ∀ inst ∈ p.idle, P inst
  makes : ∀ id i, e.blueprint.configure = .ok i →
    P { id := id, state := i }

namespace Every

/-- Nothing waits at first. -/
theorem start {b : Blueprint F} {shared : Shared}
    (makes : ∀ id i, b.configure = .ok i → P { id := id, state := i }) :
    (start b shared).Every P := by
  refine ⟨fun p hp inst hinst => ?_, makes⟩
  cases hp
  simp at hinst

theorem imp {Q : Instance (Interpreter F) → Prop} (h : e.Every P)
    (hPQ : ∀ inst, P inst → Q inst) : e.Every Q :=
  ⟨fun p hp inst hinst => hPQ inst (h.waits p hp inst hinst),
    fun id i hi => hPQ _ (h.makes id i hi)⟩

/-- What instances share does not count. -/
theorem share (h : e.Every P) (shared : Shared) :
    { e with shared := shared }.Every P := ⟨h.waits, h.makes⟩

theorem put (h : e.Every P) {inst : Instance (Interpreter F)}
    (hinst : P inst) : (e.put inst).Every P := by
  refine ⟨fun p hp inst' hinst' => ?_, h.makes⟩
  obtain ⟨p', hp', rfl⟩ := Option.map_eq_some_iff.mp hp
  rcases Pool.mem_put hinst' with rfl | hmem
  · exact hinst
  · exact h.waits p' hp' inst' hmem

theorem get (h : e.Every P) : e.get.2.Every P := by
  unfold Engine.get
  split
  · rename_i p hpool
    refine ⟨fun p' hp' inst hinst => ?_, h.makes⟩
    cases hp'
    exact h.waits p hpool inst (Pool.mem_get hinst)
  · exact h

/-- What is handed out has the property. -/
theorem handedOut (h : e.Every P) {inst : Instance (Interpreter F)}
    (hget : e.get.1 = .ok inst) : P inst := by
  unfold Engine.get at hget
  split at hget
  · rename_i p hpool
    rcases Pool.get_ok hget with hmem | ⟨id, i, hi, rfl⟩
    · exact h.waits p hpool inst hmem
    · exact h.makes id i hi
  · cases hget

theorem warm (h : e.Every P) (count : Nat) : (e.warm count).2.Every P := by
  unfold Engine.warm
  split
  · rename_i p hpool
    refine ⟨fun p' hp' inst hinst => ?_, h.makes⟩
    cases hp'
    rcases Pool.mem_warm hinst with hmem | ⟨id, i, hi, rfl⟩
    · exact h.waits p hpool inst hmem
    · exact h.makes id i hi
  · exact h

theorem close (h : e.Every P) : e.close.Every P := ⟨nofun, h.makes⟩

theorem modifyAgenda (h : e.Every P) (f : Agenda → Agenda) :
    (e.modifyAgenda f).Every P := h.share _

theorem attach (h : e.Every P) : e.attach.Every P := h.modifyAgenda _

theorem shutdown (h : e.Every P) : e.shutdown.Every P := h.modifyAgenda _

theorem schedule (h : e.Every P) (interval : Nat) (script : String) :
    (e.schedule interval script).2.Every P := by
  unfold Engine.schedule
  dsimp only
  split
  · exact h
  · split
    · exact ⟨h.waits, h.makes⟩
    · exact h

theorem cancel (h : e.Every P) (event : EventId) :
    (e.cancel event).2.Every P := by
  unfold Engine.cancel
  split
  · exact h
  · exact ⟨h.waits, h.makes⟩

/-- What is left of the instance that was handed out has the property if the
run keeps it. -/
theorem withInstance (h : e.Every P)
    {run : Instance (Interpreter F) → Shared → Executed F (List Run)}
    (keeps : ∀ inst, e.get.1 = .ok inst → P inst →
      P (run inst e.shared).inst) : (e.withInstance run).2.Every P := by
  have hget := h.get
  have hshared : e.get.2.shared = e.shared := by
    unfold Engine.get
    split <;> rfl
  unfold Engine.withInstance
  rcases hrun : e.get with ⟨error | inst, e'⟩
  · rw [hrun] at hget
    exact hget
  · rw [hrun] at hget hshared
    have hleft := keeps inst (by rw [hrun]) (h.handedOut (by rw [hrun]))
    exact (hget.share _).put (hshared ▸ hleft)

/-! ### Time -/

section Time

variable [Dispatch F] (keeps : ∀ path inst shared, P inst →
  P (runFile path .internal inst shared).inst)

include keeps

theorem runEvent (h : e.Every P) (job : Job) :
    (e.runEvent job).2.Every P := by
  have hrun := h.withInstance fun inst _ => keeps job.script inst e.shared
  unfold Engine.runEvent
  split
  · exact h.modifyAgenda (·.finish job.id)
  · exact hrun.modifyAgenda (·.postpone job.id)

theorem runWaiting (time fuel : Nat) :
    ∀ {waiting : List Job} {e : Engine F}, e.Every P →
      (Engine.runWaiting time fuel waiting e).2.Every P := by
  induction fuel with
  | zero => exact fun h => h
  | succ fuel ih =>
    intro waiting e h
    cases waiting with
    | nil => exact h
    | cons job waiting => exact ih (h.runEvent keeps job)

theorem runStep (h : e.Every P) {time : Nat} {runs : List Run}
    {e' : Engine F} (hstep : e.runStep time = (runs, e')) : e'.Every P := by
  have hafter : (e.runStep time).2.Every P := h.runWaiting keeps time _
  rw [hstep] at hafter
  exact hafter

theorem passFrom (h : e.Every P) (now deadline : Nat) :
    (e.passFrom now deadline).2.Every P := by
  induction now, e using Engine.passFrom.induct (F := F) deadline with
  -- Time goes on to the next event, or to the deadline.
  | case1 now e runs e' hstep time htime hlater runs' e'' hrest ih =>
    have hafter := ih ((h.runStep keeps hstep).modifyAgenda _)
    rw [Engine.passFrom, hstep]
    simp only [htime, dif_pos hlater]
    exact hafter
  | case2 now e runs e' hstep time htime hend =>
    rw [Engine.passFrom, hstep]
    simp only [htime, dif_neg hend]
    exact (h.runStep keeps hstep).modifyAgenda _
  | case3 now e runs e' hstep hnone =>
    rw [Engine.passFrom, hstep]
    simp only [hnone]
    exact (h.runStep keeps hstep).modifyAgenda _

theorem advance (h : e.Every P) (milliseconds : Nat) :
    (e.advance milliseconds).2.Every P := by
  unfold Engine.advance
  split
  · exact h
  · exact h.passFrom keeps _ _

end Time

end Every

end Engine

/-! ## Instances in the hands of callers -/

namespace Custody

variable {F : Type} {P : Instance (Interpreter F) → Prop} {c : Custody F}

/-- An instance that waits, or that a caller holds. -/
def Has (c : Custody F) (inst : Instance (Interpreter F)) : Prop :=
  (∃ p, c.engine.pool = some p ∧ inst ∈ p.idle)
    ∨ ∃ name h, c.holding? name = some h ∧ h.inst = inst

/-- The instance that a run under a name is given: the one that is held, or
else one that is handed out. -/
def target? (c : Custody F) (name : Option String) :
    Option (Instance (Interpreter F)) :=
  match name.bind c.holding? with
  | some h => some h.inst
  | none => c.engine.get.1.toOption

/-- Every instance has a property, and every new one. -/
structure Every (P : Instance (Interpreter F) → Prop) (c : Custody F) :
    Prop where
  engine : c.engine.Every P
  held : ∀ name h, c.holding? name = some h → P h.inst

namespace Every

theorem of_has (h : c.Every P) {inst : Instance (Interpreter F)}
    (has : c.Has inst) : P inst := by
  rcases has with ⟨p, hp, hmem⟩ | ⟨name, holding, hname, rfl⟩
  · exact h.engine.waits p hp inst hmem
  · exact h.held name holding hname

theorem imp {Q : Instance (Interpreter F) → Prop} (h : c.Every P)
    (hPQ : ∀ inst, P inst → Q inst) : c.Every Q :=
  ⟨h.engine.imp hPQ, fun name holding hname =>
    hPQ _ (h.held name holding hname)⟩

theorem target (h : c.Every P) {name : Option String}
    {inst : Instance (Interpreter F)} (htarget : c.target? name = some inst) :
    P inst := by
  unfold target? at htarget
  split at htarget
  · rename_i holding hname
    cases htarget
    obtain ⟨n, -, hn⟩ := Option.bind_eq_some_iff.mp hname
    exact h.held n holding hn
  · cases hget : c.engine.get.1 with
    | error e =>
      rw [hget] at htarget
      cases htarget
    | ok inst' =>
      rw [hget] at htarget
      cases htarget
      exact h.engine.handedOut hget

/-- What happens to the engine alone. -/
theorem withEngine (h : c.Every P) {e : Engine F} (he : e.Every P) :
    { c with engine := e }.Every P := ⟨he, h.held⟩

theorem hold (h : c.Every P) (name : String)
    {holding : Holding (Interpreter F)} (hP : P holding.inst) :
    { c with held := c.held.insert name holding }.Every P := by
  refine ⟨h.engine, fun name' holding' hname' => ?_⟩
  have hinsert := c.held.get?_insert name holding name'
  by_cases heq : name = name'
  · rw [if_pos heq] at hinsert
    cases hinsert.symm.trans hname'
    exact hP
  · rw [if_neg heq] at hinsert
    exact h.held name' holding' (hinsert.symm.trans hname')

theorem release (h : c.Every P) (name : String) :
    { c with held := c.held.erase name }.Every P := by
  refine ⟨h.engine, fun name' holding' hname' => ?_⟩
  have herase := c.held.get?_erase name name'
  by_cases heq : name = name'
  · rw [if_pos heq] at herase
    cases herase.symm.trans hname'
  · rw [if_neg heq] at herase
    exact h.held name' holding' (herase.symm.trans hname')

theorem letGo (h : c.Every P) (name : String) : (c.letGo name).Every P := by
  unfold Custody.letGo
  split
  · rename_i holding hname
    refine (h.release name).withEngine ?_
    split
    · exact h.engine.put (h.held name holding hname)
    · exact h.engine
  · exact h

theorem take (h : c.Every P) (name : String) (guarded : Bool) :
    (c.take name guarded).2.Every P := by
  have hget := h.engine.get
  unfold Custody.take
  rcases hrun : c.engine.get with ⟨error | inst, e⟩
  · rw [hrun] at hget
    exact h.withEngine hget
  · rw [hrun] at hget
    exact ((h.withEngine hget).letGo name).hold name
      (h.engine.handedOut (by rw [hrun]))

theorem giveBack (h : c.Every P) (name : String) :
    (c.giveBack name).Every P := by
  unfold Custody.giveBack
  split
  · rename_i holding hname
    exact (h.release name).withEngine
      (h.engine.put (h.held name holding hname))
  · exact h

theorem detach (h : c.Every P) (name : String) :
    (c.detach name).Every P := by
  unfold Custody.detach
  split
  · rename_i holding hname
    exact h.hold name (h.held name holding hname)
  · exact h

theorem close (h : c.Every P) : c.close.Every P :=
  ⟨h.engine.close, fun _ _ hname => by cases hname⟩

theorem schedule (h : c.Every P) (event : String) (interval : Nat)
    (script : String) : (c.schedule event interval script).2.Every P := by
  have he := h.engine.schedule interval script
  unfold Custody.schedule
  rcases hrun : c.engine.schedule interval script with ⟨error | id, e⟩
  · rw [hrun] at he
    exact h.withEngine he
  · rw [hrun] at he
    exact ⟨he, h.held⟩

theorem cancel (h : c.Every P) (event : String) :
    (c.cancel event).2.Every P := by
  unfold Custody.cancel
  split
  · exact h.withEngine (h.engine.cancel _)
  · exact h

/-- The instance that a run is given has the property afterwards if the run
keeps it. -/
theorem run (h : c.Every P) {name : Option String}
    {program : Instance (Interpreter F) → Shared → Executed F (List Run)}
    (keeps : ∀ inst, c.target? name = some inst → P inst →
      P (program inst c.engine.shared).inst) :
    (c.run name program).2.Every P := by
  unfold Custody.run
  split
  · rename_i n holding hfound
    obtain ⟨n', rfl, hmap⟩ := Option.bind_eq_some_iff.mp hfound
    obtain ⟨holding', hname, heq⟩ := Option.map_eq_some_iff.mp hmap
    cases heq
    have htarget : c.target? (some n) = some holding.inst := by
      rw [target?, Option.bind_some, hname]
    exact (h.withEngine (h.engine.share _)).hold n
      (keeps _ htarget (h.held n holding hname))
  · rename_i hnone
    have hfree : name.bind c.holding? = none := by
      cases name with
      | none => rfl
      | some n => exact Option.map_eq_none_iff.mp hnone
    refine h.withEngine (h.engine.withInstance fun inst hget => keeps inst ?_)
    rw [target?, hfree, hget]
    rfl

theorem perform [Dispatch F] (h : c.Every P) {script : Script}
    (keeps : ∀ inst, P inst →
      P (inst.perform script.run c.engine.shared).2.1) (name : String) :
    (c.perform name script).2.Every P := by
  unfold Custody.perform
  split
  · rename_i holding hname
    exact ((h.withEngine (h.engine.share _)).hold name
      (keeps _ (h.held name holding hname)))
  · exact h

end Every

end Custody

end ScriptHost
