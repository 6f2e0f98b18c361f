/-
ScriptHost.Proofs.Engine.History — requests end with their runs.

A `History` is an engine with its callers, after any moves of callers and of
time. It notes which runs have ended by a panic: the identity of the
instance and the count of its uses. An instance is `Clear` if it carries no
request, unless its latest run is one of those.

* `step_clear` says that a move keeps all instances clear, by the cases of
  `Move`. Only steps outside of a run need something of the functions: that
  none of them starts a run.
* `play_clear` says it of all instances in all histories.
-/
import ScriptHost.Proofs.Engine.Custody
import ScriptHost.Proofs.Script.Bindable
import ScriptHost.Proofs.Script.Outside

namespace ScriptHost

variable {F : Type}

/-! ## New instances -/

namespace Interpreter

theorem exchange_setGlobal (i : Interpreter F) (name : String) (v : Value) :
    (i.setGlobal name v).exchange = i.exchange := rfl

theorem exchange_modifyTable (i : Interpreter F) (id : TableId)
    (f : Table → Table) : (i.modifyTable id f).exchange = i.exchange := rfl

end Interpreter

namespace Blueprint

variable (b : Blueprint F)

theorem exchange_setGlobals {i i' : Interpreter F}
    (h : b.setGlobals i = .ok i') : i'.exchange = i.exchange := by
  unfold setGlobals at h
  dsimp only at h
  split at h
  · injection h with h
    rw [← h]
    simp only [Interpreter.exchange_setGlobal,
      Interpreter.exchange_modifyTable]
  · injection h

/-- **A new instance carries no request.** -/
theorem exchange_configure {i : Interpreter F} (h : b.configure = .ok i) :
    i.exchange = none := by
  have hguarded := Binder.bindRegistry_guarded b.registry
  have hgrows := Binder.grows_addRegistry b.registry
    (b := { interpreter := .fresh (some b.context) })
    (Interpreter.hasGlobals_fresh _)
  unfold configure at h
  split at h
  · rename_i binder hrun
    have hfree := (hguarded.ok_iff _).mp (congrArg Prod.fst hrun)
    have hdone := (hguarded.done _ hfree).symm.trans hrun
    injection hdone with _ hbinder
    rw [exchange_setGlobals b h, ← hbinder, hgrows.exchange]
    rfl
  · injection h

end Blueprint

/-! ## Runs -/

/-- What a caller can run. -/
inductive Task (F : Type) where
  | file (path : String)
  | script (script : Script)
  /-- Any program, also one that ends by a panic. -/
  | program (program : StateM (World F) (Ended (List Run)))

/-- Runs it on an instance. -/
def Task.run [Dispatch F] (request : Request) :
    Task F → Instance (Interpreter F) → Shared → Executed F (List Run)
  | .file path => Engine.runFile path request
  | .script s => Engine.runScript s request
  | .program p => fun inst shared => inst.execute p request shared

namespace Instance

variable {R : Type} (program : StateM (World F) (Ended R)) (request : Request)
  (inst : Instance (Interpreter F)) (shared : Shared)

theorem outcomeOf_panicked {ending : Except Abort Unit}
    {ex : Option Exchange} :
    outcomeOf ending ex = .error .panicked ↔ ending = .error .panicked := by
  match ending with
  | .ok () => exact ⟨nofun, nofun⟩
  | .error (.raised e) => exact ⟨nofun, nofun⟩
  | .error .panicked => exact ⟨fun _ => rfl, fun _ => rfl⟩

theorem exchange_afterRun {ending : Except Abort Unit}
    (h : ending ≠ .error .panicked) (i : Interpreter F) :
    (afterRun ending i).exchange = none := by
  match ending with
  | .ok () => rfl
  | .error (.raised e) => rfl
  | .error .panicked => exact absurd rfl h

/-- **A run leaves no request, unless it ends by a panic.** -/
theorem execute_leaves (h : (inst.execute program request shared).outcome
      ≠ .error .panicked) :
    (inst.execute program request shared).inst.state.exchange = none :=
  exchange_afterRun (fun hended => h (outcomeOf_panicked.mpr hended)) _

/-- Only a program that ends by a panic makes its run end so. -/
theorem execute_steady (h : ∀ w, (program.run w).1.ending
      ≠ .error .panicked) :
    (inst.execute program request shared).outcome ≠ .error .panicked :=
  fun hpanic => h _ (outcomeOf_panicked.mp hpanic)

end Instance

namespace Engine

variable [Dispatch F] (path : String) (request : Request)
  (inst : Instance (Interpreter F)) (shared : Shared)

/-- A file is run as the program of its text, or it is no use of the
instance. -/
theorem runFile_cases :
    (∃ text, (runFile path request inst shared).inst
        = (inst.execute (Script.runText text) request shared).inst)
      ∨ (runFile path request inst shared).inst = inst := by
  unfold runFile
  split
  · rename_i text _
    exact .inl ⟨text, rfl⟩
  · exact .inr rfl

end Engine

/-! ## Clear instances -/

/-- The instance carries no request, unless its latest run is one of those
that have ended by a panic. -/
def Instance.Clear (panics : List (Nat × Nat))
    (inst : Instance (Interpreter F)) : Prop :=
  (inst.id, inst.uses) ∉ panics → inst.state.exchange = none

section Clear

variable {panics : List (Nat × Nat)} {request : Request}
  {inst : Instance (Interpreter F)} {shared : Shared}

theorem Instance.execute_clear {R : Type}
    (program : StateM (World F) (Ended R))
    (noted : (inst.execute program request shared).outcome
      = .error .panicked → (inst.id, inst.uses + 1) ∈ panics) :
    (inst.execute program request shared).inst.Clear panics :=
  fun hleft => execute_leaves program request inst shared
    fun hpanic => hleft (noted hpanic)

variable [Dispatch F]

/-- A file never ends by a panic. -/
theorem Engine.runFile_clear (h : inst.Clear panics) (path : String) :
    (runFile path request inst shared).inst.Clear panics := by
  rcases runFile_cases path request inst shared with ⟨text, hrun⟩ | hsame
  · rw [hrun]
    exact Instance.execute_clear _ fun hpanic => absurd hpanic
      (Instance.execute_steady _ _ _ _ (Script.runText_steady text))
  · rw [hsame]
    exact h

theorem Task.run_clear (h : inst.Clear panics) {task : Task F}
    (noted : (task.run request inst shared).outcome = .error .panicked →
      (inst.id, inst.uses + 1) ∈ panics) :
    (task.run request inst shared).inst.Clear panics := by
  cases task with
  | file path => exact Engine.runFile_clear h path
  | script s => exact Instance.execute_clear s.run noted
  | program p => exact Instance.execute_clear p noted

/-- Steps that are done outside of a run leave no request. -/
theorem Instance.perform_clear
    (functions : ∀ (f : F) args, Action.StaysOutside (Dispatch.run f args))
    (h : inst.Clear panics) (script : Script) :
    (inst.perform script.run shared).2.1.Clear panics :=
  fun hleft => Script.runFrom_outside functions script #[]
    ⟨inst.state, shared⟩ (h hleft)

end Clear

/-! ## Moves -/

namespace Custody

/-- What a caller can do to an engine, or time. -/
inductive Move (F : Type) where
  | take (name : String) (guarded : Bool)
  | letGo (name : String)
  | giveBack (name : String)
  | detach (name : String)
  | warm (count : Nat)
  | run (name : Option String) (task : Task F) (request : Request)
  /-- Does steps outside of any run. -/
  | perform (name : String) (script : Script)
  | schedule (event : String) (interval : Nat) (script : String)
  | cancel (event : String)
  | attach
  | shutdown
  | advance (milliseconds : Nat)
  | close

variable [Dispatch F]

/-- An engine and its callers after a move. -/
def after (c : Custody F) : Move F → Custody F
  | .take name guarded => (c.take name guarded).2
  | .letGo name => c.letGo name
  | .giveBack name => c.giveBack name
  | .detach name => c.detach name
  | .warm count => { c with engine := (c.engine.warm count).2 }
  | .run name task request => (c.run name (task.run request)).2
  | .perform name script => (c.perform name script).2
  | .schedule event interval script => (c.schedule event interval script).2
  | .cancel event => (c.cancel event).2
  | .attach => { c with engine := c.engine.attach }
  | .shutdown => { c with engine := c.engine.shutdown }
  | .advance milliseconds =>
    { c with engine := (c.engine.advance milliseconds).2 }
  | .close => c.close

/-- The run that ends by a panic with a move, if one does: the identity of
its instance, and which use of it this is. -/
def panic? (c : Custody F) : Move F → Option (Nat × Nat)
  | .run name task request =>
    match c.target? name with
    | some inst =>
      match (task.run request inst c.engine.shared).outcome with
      | .error .panicked => some (inst.id, inst.uses + 1)
      | _ => none
    | none => none
  | _ => none

theorem panic?_run {c : Custody F} {name : Option String} {task : Task F}
    {request : Request} {inst : Instance (Interpreter F)}
    (htarget : c.target? name = some inst)
    (hpanic : (task.run request inst c.engine.shared).outcome
      = .error .panicked) :
    c.panic? (.run name task request) = some (inst.id, inst.uses + 1) := by
  rw [panic?, htarget]
  dsimp only
  rw [hpanic]

end Custody

/-! ## Histories -/

/-- An engine with its callers, and which runs have ended by a panic. -/
structure History (F : Type) where
  custody : Custody F
  panics : List (Nat × Nat) := []

namespace History

/-- A new engine, without callers. -/
def start (b : Blueprint F) (shared : Shared) : History F :=
  { custody := { engine := .start b shared } }

/-- All instances are clear, and new ones as well. -/
def AllClear (h : History F) : Prop :=
  h.custody.Every (Instance.Clear h.panics)

theorem start_clear (b : Blueprint F) (shared : Shared) :
    (start b shared).AllClear :=
  ⟨.start fun _ _ hi _ => b.exchange_configure hi,
    fun _ _ hname => by cases hname⟩

variable [Dispatch F]

/-- One move more. -/
def step (h : History F) (move : Custody.Move F) : History F :=
  { custody := h.custody.after move
    panics := (h.custody.panic? move).toList ++ h.panics }

/-- One move after another. -/
def play (h : History F) (moves : List (Custody.Move F)) : History F :=
  moves.foldl step h

section Invariant

variable (functions : ∀ (f : F) args,
  Action.StaysOutside (Dispatch.run f args)) {h : History F}

include functions

/-- **A move keeps all instances clear.** -/
theorem step_clear (clear : h.AllClear) (move : Custody.Move F) :
    (h.step move).AllClear := by
  -- A panic of this move is noted first: less is asked of every instance.
  have hmore : h.custody.Every (Instance.Clear (h.step move).panics) :=
    clear.imp fun inst hinst hleft =>
      hinst fun hmem => hleft (List.mem_append_right _ hmem)
  unfold AllClear
  cases move with
  | take name guarded => exact hmore.take name guarded
  | letGo name => exact hmore.letGo name
  | giveBack name => exact hmore.giveBack name
  | detach name => exact hmore.detach name
  | warm count => exact hmore.withEngine (hmore.engine.warm count)
  | run name task request =>
    refine hmore.run fun inst htarget hinst => Task.run_clear hinst ?_
    intro hpanic
    -- The panic that this move has noted is the one of the instance here.
    refine List.mem_append_left _ ?_
    rw [Custody.panic?_run htarget hpanic]
    exact List.mem_singleton_self _
  | perform name script =>
    exact hmore.perform
      (fun inst hinst => Instance.perform_clear functions hinst script) name
  | schedule event interval script =>
    exact hmore.schedule event interval script
  | cancel event => exact hmore.cancel event
  | attach => exact hmore.withEngine hmore.engine.attach
  | shutdown => exact hmore.withEngine hmore.engine.shutdown
  | advance milliseconds =>
    have hafter := hmore.engine.advance (P := Instance.Clear _)
      (fun path _ _ hinst => Engine.runFile_clear hinst path) milliseconds
    exact hmore.withEngine hafter
  | close => exact hmore.close

/-- **In all histories all instances are clear.** -/
theorem play_clear (moves : List (Custody.Move F)) :
    ∀ {h : History F}, h.AllClear → (h.play moves).AllClear := by
  induction moves with
  | nil => exact fun clear => clear
  | cons move rest ih =>
    exact fun clear => ih (step_clear functions clear move)

end Invariant

end History

end ScriptHost
