/-
ScriptHost.Proofs.Host.Bustle — many callers at one scheduler, step by step.

A scheduler serves several callers at once, and every event has a task of
its own, which runs beside them all. An event is scheduled in three steps:
its identity is drawn; its task begins, for which the caller takes the lock
of the entries; its entry is made, and the lock is free again. In between
the task may wake up, find the pool gone, and end. A `Bustle` is the
scheduler with the callers that are in the middle of this and with the tasks
that there are. A `Move` is one step of a caller or of a task, and a list of
moves is one order in which they may follow each other. A move that cannot
be made at that moment changes nothing.

* `step_change` says once what a step can do; the invariant `Settled` is a
  case analysis of `Change`.
* `run_schedule` and `run_finish` say that steps which nobody interrupts are
  what the scheduler does, and what an engine does with an event when its
  pool is gone.
* `run_active` is the main statement: the entries are those of the events
  that were scheduled and not ended since.
-/
import Mathlib.Data.List.Nodup
import Mathlib.Data.List.Perm.Basic
import ScriptHost.Capability.Event
import ScriptHost.Engine.Events
import ScriptHost.Proofs.Data.Since
import ScriptHost.Proofs.Pool.Crowd
import ScriptHost.Proofs.Script.Action

namespace ScriptHost

/-! ## Scheduling in steps -/

namespace Scheduler

/-- The events that are active. -/
def ids (s : Scheduler) : List EventId := s.jobs.map Job.id

theorem isActive_iff {s : Scheduler} {id : EventId} :
    s.isActive id = true ↔ id ∈ s.ids := by
  simp [isActive, ids]

theorem ids_add (s : Scheduler) (job : Job) :
    (s.add job).ids = s.ids ++ [job.id] := by
  simp [add, ids]

theorem ids_remove (s : Scheduler) (id : EventId) :
    (s.remove id).ids = s.ids.filter (· ≠ id) := by
  simp [remove, ids, List.filter_map, Function.comp_def]

/-- To put an event off leaves the same events active. -/
theorem ids_update (s : Scheduler) (id : EventId) {f : Job → Job}
    (same : ∀ job, (f job).id = job.id) : (s.update id f).ids = s.ids := by
  rw [ids, update, List.map_map]
  refine List.map_congr_left fun job _ => ?_
  show (if job.id = id then f job else job).id = job.id
  split
  · exact same job
  · rfl

end Scheduler

namespace Agenda

/-- The job of a new event, before any scheduler has it. -/
def draw (a : Agenda) (interval : Nat) (script : String) :
    Except HostFault (Job × Agenda) :=
  if interval = 0 then
    .error (.service "event interval must be greater than zero")
  else if !a.hasRuntime then
    .error (.service "events require a running tokio runtime")
  else
    .ok ({ id := a.nextId
           interval := interval
           script := script
           due := a.dueAfter a.now interval
           turn := a.nextTurn },
      { a with nextId := a.nextId + 1, nextTurn := a.nextTurn + 1 })

/-- To schedule an event is to draw its job and to add that. -/
theorem scheduleOn_eq (a : Agenda) (s : Scheduler) (interval : Nat)
    (script : String) :
    a.scheduleOn s interval script
      = (a.draw interval script).map fun (job, a) =>
        (job.id, s.add job, a) := by
  unfold scheduleOn draw
  split
  · rfl
  · split <;> rfl

theorem draw_ok {a a' : Agenda} {interval : Nat} {script : String} {job : Job}
    (h : a.draw interval script = .ok (job, a')) :
    job.id = a.nextId ∧ a'.nextId = a.nextId + 1 := by
  unfold draw at h
  split at h
  · cases h
  · split at h
    · cases h
    · cases h
      exact ⟨rfl, rfl⟩

/-- An event is refused without time between its runs, or with nothing to
run it. -/
theorem draw_error_iff {a : Agenda} {interval : Nat} {script : String} :
    (∃ fault, a.draw interval script = .error fault)
      ↔ interval = 0 ∨ a.hasRuntime = false := by
  unfold draw
  split
  · rename_i hzero
    simp [hzero]
  · rename_i hzero
    cases a.hasRuntime <;> simp [hzero]

end Agenda

/-! ## Stopping an event from a script -/

section Stop

variable {F : Type} {w : World F}

/-- The table is an object that stands for this event. -/
def World.Carries (w : World F) (object : TableId) (id : EventId) : Prop :=
  ∃ n, (w.interpreter.table object).field Action.handleField = .handle n
    ∧ w.interpreter.handles[n]? = some (.event id)

theorem Action.run_stateOf_event {object : TableId} {id : EventId}
    (carries : w.Carries object id) :
    (Action.stateOf EventFunction.event? object).run.run w = (.ok id, w) := by
  obtain ⟨n, hfield, hstate⟩ := carries
  have hhandle : (Action.handleOf object : Action F HandleId).run.run w
      = (.ok n, w) := by
    rw [handleOf, run_bind, run_interpreter]
    dsimp only
    rw [hfield]
    rfl
  rw [stateOf, run_bind, hhandle]
  dsimp only
  rw [run_bind, run_interpreter]
  dsimp only
  rw [hstate]
  rfl

/-- To stop an event from a script is to cancel it at the scheduler that
serves the scripts. -/
theorem EventFunction.run_stop {context : HostContext} {s : Scheduler}
    (host : w.interpreter.host = some context)
    (own : context.services.provides .event = false)
    (first : w.shared.agenda.first = some s)
    {args : List Value} {object : TableId} {id : EventId}
    (self : Argument.nth args 0 = .table object)
    (carries : w.Carries object id) :
    (stop.run args : Action F (List Value)).run.run w
      = (.ok [.bool (s.cancel id).1],
        { w with shared.agenda.first := some (s.cancel id).2 }) := by
  have hhost : (Action.host : Action F HostContext).run.run w
      = (.ok context, w) := by rw [Action.run_host, host]
  have hcancel : (Action.cancel id : Action F Bool).run.run w
      = (.ok (s.cancel id).1,
        { w with shared.agenda.first := some (s.cancel id).2 }) := by
    rw [Action.cancel, run_bind, hhost]
    dsimp only
    have hshared : (Action.shared : Action F Shared).run.run w
        = (.ok w.shared, w) := rfl
    rw [own, if_neg Bool.false_ne_true, run_bind, hshared]
    dsimp only
    rw [Agenda.cancel, first]
    rfl
  rw [run, run_bind, Action.run_argument, self]
  dsimp only [Argument.table]
  rw [run_bind, Action.run_stateOf_event carries]
  dsimp only
  rw [run_bind, hcancel]
  rfl

end Stop

/-! ## Callers and tasks -/

/-- A scheduler, its callers, and the tasks of its events. -/
structure Bustle (C : Type) where
  /-- Where identities are drawn from. -/
  agenda : Agenda
  scheduler : Scheduler := {}
  /-- The callers that have drawn a job and wait for the lock. -/
  waiting : List (C × Job) := []
  /-- The caller that has the lock, and the job whose task has begun. -/
  holder : Option (C × Job) := none
  /-- The events whose tasks wake up again and again. -/
  running : List EventId := []
  /-- The events whose tasks have ended and take their entries out. -/
  leaving : List EventId := []
  /-- Is the pool there? -/
  hasPool : Bool := true

namespace Bustle

/-- One step of a caller or of a task. -/
inductive Move (C : Type) where
  /-- Draws a job, or is refused. -/
  | schedule (caller : C) (interval : Nat) (script : String)
  /-- Takes the lock and begins the task of the job. -/
  | spawn (caller : C)
  /-- Makes the entry and lets go of the lock. -/
  | insert (caller : C)
  | cancel (caller : C) (id : EventId)
  | shutdown (caller : C)
  /-- The pool goes away for good. -/
  | close
  /-- The task of an event wakes up. If the pool is there it runs the script
  and is due again; otherwise it ends. -/
  | wake (id : EventId) (due turn : Nat)
  /-- The task of an event whose entry was taken out is gone. -/
  | vanish (id : EventId)
  /-- A task that has ended takes its entry out. -/
  | finish (id : EventId)
  /-- Time passes, other schedulers draw identities, and what runs events
  comes or goes. -/
  | elsewhere (drawn now : Nat) (hasRuntime : Bool)

/-- What can be seen of a step. -/
inductive Report (C : Type) where
  | scheduled (caller : C) (id : EventId)
  | refused (caller : C) (fault : HostFault)
  | cancelled (caller : C) (id : EventId) (found : Bool)
  | stopped (caller : C)
  | finished (id : EventId)

namespace Report

variable {C : Type}

/-- The event that is scheduled. -/
def opens? : Report C → Option EventId
  | scheduled _ id => some id
  | _ => none

/-- Is the event not active any more? -/
def ends (id : EventId) : Report C → Bool
  | cancelled _ other found => found && other = id
  | stopped _ => true
  | finished other => other = id
  | _ => false

/-- The event whose end this is, and of no other. -/
def closes? : Report C → Option EventId
  | cancelled _ id true => some id
  | finished id => some id
  | _ => none

/-- The event that somebody has cancelled. -/
def won? : Report C → Option EventId
  | cancelled _ id true => some id
  | _ => none

end Report

variable {C : Type}

/-- A new scheduler, which nobody has used yet. -/
def start (agenda : Agenda) : Bustle C := { agenda := agenda }

/-! ### Changes -/

/-- The event that is being scheduled. -/
def begun (b : Bustle C) : List EventId := b.holder.toList.map (·.2.id)

/-- All that a step can do, with what can be seen of it. -/
inductive Change (b : Bustle C) : Bustle C → Option (Report C) → Prop where
  | refused (c : C) (fault : HostFault) :
    Change b b (some (.refused c fault))
  /-- The same events are active and the same callers are in the middle of
  scheduling; a task may end, or be gone if it has no entry. -/
  | quiet (b' : Bustle C) (ids : b'.scheduler.ids = b.scheduler.ids)
      (holder : b'.holder = b.holder) (waiting : b'.waiting = b.waiting)
      (next : b.agenda.nextId ≤ b'.agenda.nextId)
      (tasks : b'.running ++ b'.leaving ⊆ b.running ++ b.leaving)
      (alive : ∀ id ∈ b.scheduler.ids ++ b.begun,
        id ∈ b.running ++ b.leaving → id ∈ b'.running ++ b'.leaving) :
    Change b b' none
  /-- A caller has drawn a job. -/
  | drawn (c : C) (job : Job) (agenda : Agenda)
      (id : job.id = b.agenda.nextId)
      (next : agenda.nextId = b.agenda.nextId + 1) :
    Change b { b with agenda := agenda, waiting := b.waiting ++ [(c, job)] }
      none
  /-- A caller has the lock, and the task of its job has begun. -/
  | spawned (front : List (C × Job)) (w : C × Job) (back : List (C × Job))
      (free : b.holder = none) (was : b.waiting = front ++ w :: back) :
    Change b
      { b with
        waiting := front ++ back
        holder := some w
        running := w.2.id :: b.running } none
  /-- The entry is made. -/
  | inserted (c : C) (job : Job) (was : b.holder = some (c, job)) :
    Change b { b with scheduler := b.scheduler.add job, holder := none }
      (some (.scheduled c job.id))
  /-- Entries are taken out: those of the events that end with this. -/
  | ended (r : Report C) (s : Scheduler) (leaving : List EventId)
      (free : b.holder = none) (old : r.opens? = none)
      (ids : s.ids = b.scheduler.ids.filter (!r.ends ·))
      (closes : ∀ id, r.closes? = some id → r.ends id = true
        ∧ (id ∈ b.scheduler.ids ∨ id ∈ b.leaving))
      (won : ∀ id, r.won? = some id → id ∈ b.scheduler.ids)
      (left : leaving ⊆ b.leaving)
      (stay : ∀ id ∈ b.leaving, r.ends id = false → id ∈ leaving) :
    Change b { b with scheduler := s, leaving := leaving } (some r)

theorem change_refl (b : Bustle C) : Change b b none :=
  .quiet b rfl rfl rfl (Nat.le_refl _) (List.Subset.refl _) fun _ _ h => h

/-- To cancel takes out the one entry that it has found, if it has. -/
theorem cancel_change {b : Bustle C} (free : b.holder = none) (c : C)
    (id : EventId) :
    Change b { b with scheduler := b.scheduler.remove id }
      (some (.cancelled c id (b.scheduler.isActive id))) := by
  refine .ended _ _ b.leaving free rfl ?_ ?_ ?_ (List.Subset.refl _)
    fun _ h _ => h
  · rw [Scheduler.ids_remove]
    cases hactive : b.scheduler.isActive id with
    | true =>
      refine List.filter_congr fun other _ => ?_
      simp [Report.ends, eq_comm]
    | false =>
      have hnot : id ∉ b.scheduler.ids := fun h => by
        rw [← Scheduler.isActive_iff, hactive] at h
        cases h
      simp only [Report.ends, Bool.false_and, Bool.not_false,
        List.filter_true]
      refine List.filter_eq_self.mpr fun other hother => ?_
      simpa using fun heq : other = id => hnot (heq ▸ hother)
  · intro other h
    cases hactive : b.scheduler.isActive id with
    | true =>
      rw [hactive] at h
      cases h
      exact ⟨by simp [Report.ends], .inl (Scheduler.isActive_iff.mp hactive)⟩
    | false =>
      rw [hactive] at h
      cases h
  · intro other h
    cases hactive : b.scheduler.isActive id with
    | true =>
      rw [hactive] at h
      cases h
      exact Scheduler.isActive_iff.mp hactive
    | false =>
      rw [hactive] at h
      cases h

theorem finish_change {b : Bustle C} (free : b.holder = none)
    {id : EventId} (leaving : id ∈ b.leaving) :
    Change b
      { b with
        scheduler := b.scheduler.remove id
        leaving := b.leaving.erase id } (some (.finished id)) := by
  refine .ended _ _ _ free rfl ?_ ?_ nofun (List.erase_subset) ?_
  · rw [Scheduler.ids_remove]
    refine List.filter_congr fun other _ => ?_
    simp [Report.ends, eq_comm]
  · intro other h
    cases h
    exact ⟨by simp [Report.ends], .inr leaving⟩
  · intro other hother hends
    have hne : id ≠ other := by simpa [Report.ends] using hends
    exact (List.mem_erase_of_ne hne.symm).mpr hother

/-! ### What is known -/

/-- The events that were scheduled. -/
def opened (log : List (Report C)) : List EventId :=
  log.filterMap Report.opens?

/-- The events that somebody has cancelled. -/
def won (log : List (Report C)) : List EventId := log.filterMap Report.won?

/-- The event was scheduled, and has not ended since. -/
def Lasts (log : List (Report C)) (id : EventId) : Prop :=
  Since (·.opens? = some id) (·.ends id = false) log

/-- All identities that were drawn here: those of the events that were
scheduled, of the one that is being scheduled, and of those that wait. -/
def drawn (log : List (Report C)) (b : Bustle C) : List EventId :=
  opened log ++ (b.begun ++ b.waiting.map (·.2.id))

/-- The entries are those of the events that last, and every one has its
task. -/
structure Settled (log : List (Report C)) (b : Bustle C) : Prop where
  active : ∀ id, id ∈ b.scheduler.ids ↔ Lasts log id
  nodup : (drawn log b).Nodup
  below : ∀ id ∈ drawn log b, id < b.agenda.nextId
  entries : b.scheduler.ids.Sublist (opened log)
  once : (won log).Nodup
  closed : ∀ r ∈ log, ∀ id, r.closes? = some id →
    id ∈ opened log ∧ id ∉ b.scheduler.ids
  tasks : b.running ++ b.leaving ⊆ opened log ++ b.begun
  alive : b.scheduler.ids ++ b.begun ⊆ b.running ++ b.leaving

theorem settled_start (agenda : Agenda) :
    Settled [] (start agenda : Bustle C) where
  active id := by simp [start, Scheduler.ids, Lasts, not_since_nil]
  nodup := .nil
  below := nofun
  entries := .slnil
  once := .nil
  closed := nofun
  tasks := nofun
  alive := nofun

section Settled

variable {log : List (Report C)} {b b' : Bustle C}

theorem opened_concat (r : Report C) :
    opened (log ++ [r]) = opened log ++ r.opens?.toList := by
  rw [opened, opened, List.filterMap_append]
  cases h : r.opens? <;> simp [h]

theorem won_concat (r : Report C) :
    won (log ++ [r]) = won log ++ r.won?.toList := by
  rw [won, won, List.filterMap_append]
  cases h : r.won? <;> simp [h]

theorem lasts_concat (r : Report C) (id : EventId) :
    Lasts (log ++ [r]) id
      ↔ r.opens? = some id ∨ (r.ends id = false ∧ Lasts log id) :=
  since_concat log r

/-- An event that somebody has cancelled has ended by that. -/
theorem closes_of_won {r : Report C} {id : EventId}
    (h : r.won? = some id) : r.closes? = some id := by
  cases r with
  | cancelled c other found => cases found <;> exact h
  | scheduled | refused | stopped | finished => cases h

theorem Settled.refuse (h : Settled log b) (c : C) (fault : HostFault) :
    Settled (log ++ [.refused c fault]) b := by
  have hopened : opened (log ++ [.refused c fault]) = opened log := by
    rw [opened_concat]
    exact List.append_nil _
  refine ⟨fun id => ?_, ?_, ?_, ?_, ?_, ?_, ?_, h.alive⟩
  · rw [lasts_concat, h.active]
    simp [Report.opens?, Report.ends]
  · rw [drawn, hopened]
    exact h.nodup
  · rw [drawn, hopened]
    exact h.below
  · rw [hopened]
    exact h.entries
  · rw [won_concat]
    exact (List.append_nil _).symm ▸ h.once
  · intro r hr id hcloses
    rw [hopened]
    rcases List.mem_append.mp hr with hr | hr
    · exact h.closed r hr id hcloses
    · rw [List.mem_singleton.mp hr] at hcloses
      cases hcloses
  · rw [hopened]
    exact h.tasks

theorem Settled.quiet (h : Settled log b)
    (ids : b'.scheduler.ids = b.scheduler.ids)
    (holder : b'.holder = b.holder) (waiting : b'.waiting = b.waiting)
    (next : b.agenda.nextId ≤ b'.agenda.nextId)
    (tasks : b'.running ++ b'.leaving ⊆ b.running ++ b.leaving)
    (alive : ∀ id ∈ b.scheduler.ids ++ b.begun,
      id ∈ b.running ++ b.leaving → id ∈ b'.running ++ b'.leaving) :
    Settled log b' := by
  have hbegun : b'.begun = b.begun := by rw [begun, begun, holder]
  have hdrawn : drawn log b' = drawn log b := by
    rw [drawn, drawn, hbegun, waiting]
  refine ⟨ids ▸ h.active, hdrawn ▸ h.nodup, fun id hid => ?_, ids ▸ h.entries,
    h.once, ids ▸ h.closed, ?_, fun id hid => ?_⟩
  · exact Nat.lt_of_lt_of_le (h.below id (hdrawn ▸ hid)) next
  · rw [hbegun]
    exact List.Subset.trans tasks h.tasks
  · rw [ids, hbegun] at hid
    exact alive id hid (h.alive hid)

/-- A new identity is larger than all others. -/
theorem Settled.draw (h : Settled log b) (c : C) {job : Job}
    {agenda : Agenda} (id : job.id = b.agenda.nextId)
    (next : agenda.nextId = b.agenda.nextId + 1) :
    Settled log
      { b with agenda := agenda, waiting := b.waiting ++ [(c, job)] } := by
  have hdrawn : drawn log
      { b with agenda := agenda, waiting := b.waiting ++ [(c, job)] }
        = drawn log b ++ [b.agenda.nextId] := by
    simp [drawn, begun, id]
  refine ⟨h.active, ?_, ?_, h.entries, h.once, h.closed, h.tasks, h.alive⟩
  · rw [hdrawn, List.nodup_append]
    refine ⟨h.nodup, List.nodup_singleton _, fun a ha b' hb' => ?_⟩
    rw [List.mem_singleton.mp hb']
    exact Nat.ne_of_lt (h.below a ha)
  · intro other hother
    show other < agenda.nextId
    rw [hdrawn, List.mem_append, List.mem_singleton] at hother
    rw [next]
    rcases hother with hother | rfl
    · exact Nat.lt_succ_of_lt (h.below other hother)
    · exact Nat.lt_succ_self _

/-- From waiting to the lock an identity only changes its place. -/
theorem Settled.spawn (h : Settled log b) {front back : List (C × Job)}
    {w : C × Job} (free : b.holder = none)
    (was : b.waiting = front ++ w :: back) :
    Settled log
      { b with
        waiting := front ++ back
        holder := some w
        running := w.2.id :: b.running } := by
  have hbegun : b.begun = [] := by rw [begun, free]; rfl
  have hdrawn : (drawn log
      { b with
        waiting := front ++ back
        holder := some w
        running := w.2.id :: b.running }).Perm (drawn log b) := by
    rw [drawn, drawn, hbegun, was]
    refine List.Perm.append_left _ ?_
    simp only [begun, Option.toList_some, List.map_cons, List.map_nil,
      List.map_append, List.cons_append, List.nil_append]
    exact List.perm_middle.symm
  refine ⟨h.active, hdrawn.symm.nodup h.nodup,
    fun id hid => h.below id (hdrawn.subset hid), h.entries, h.once, h.closed,
    ?_, ?_⟩
  · intro id hid
    rcases List.mem_cons.mp hid with rfl | hid
    · exact List.mem_append_right _ List.mem_cons_self
    · have hold := h.tasks hid
      rw [hbegun, List.append_nil] at hold
      exact List.mem_append_left _ hold
  · intro id hid
    rcases List.mem_append.mp hid with hid | hid
    · exact List.mem_cons_of_mem _ (h.alive (List.mem_append_left _ hid))
    · rw [List.mem_singleton.mp hid]
      exact List.mem_cons_self

/-- The entry is made of an event that has none and never had one. -/
theorem Settled.insert (h : Settled log b) {c : C} {job : Job}
    (was : b.holder = some (c, job)) :
    Settled (log ++ [.scheduled c job.id])
      { b with scheduler := b.scheduler.add job, holder := none } := by
  have hbegun : b.begun = [job.id] := by rw [begun, was]; rfl
  have hopened : opened (log ++ [.scheduled c job.id])
      = opened log ++ [job.id] := opened_concat _
  have hdrawn : drawn (log ++ [.scheduled c job.id])
      { b with scheduler := b.scheduler.add job, holder := none }
        = drawn log b := by
    rw [drawn, drawn, hopened, hbegun]
    simp [begun]
  have hnew : job.id ∉ opened log := by
    have hnodup := h.nodup
    rw [drawn, hbegun, List.nodup_append] at hnodup
    exact fun hold => hnodup.2.2 _ hold _ (by simp) rfl
  refine ⟨fun id => ?_, hdrawn.symm ▸ h.nodup, hdrawn.symm ▸ h.below, ?_, ?_,
    ?_, ?_, ?_⟩
  · rw [lasts_concat, ← h.active, Scheduler.ids_add]
    simp [Report.opens?, Report.ends, or_comm, eq_comm]
  · rw [hopened, Scheduler.ids_add]
    exact h.entries.append (List.Sublist.refl _)
  · rw [won_concat]
    exact (List.append_nil _).symm ▸ h.once
  · intro r hr id hcloses
    rw [hopened, Scheduler.ids_add]
    rcases List.mem_append.mp hr with hr | hr
    · obtain ⟨hold, hgone⟩ := h.closed r hr id hcloses
      refine ⟨List.mem_append_left _ hold, ?_⟩
      rw [List.mem_append, List.mem_singleton, not_or]
      exact ⟨hgone, fun heq => hnew (heq ▸ hold)⟩
    · rw [List.mem_singleton.mp hr] at hcloses
      cases hcloses
  · rw [hopened]
    have htasks := h.tasks
    rw [hbegun] at htasks
    simpa [begun] using htasks
  · have halive := h.alive
    rw [hbegun] at halive
    rw [Scheduler.ids_add]
    simpa [begun] using halive

/-- Entries are taken out, and each of them for good. -/
theorem Settled.finish (h : Settled log b) {r : Report C} {s : Scheduler}
    {leaving : List EventId} (free : b.holder = none)
    (old : r.opens? = none)
    (ids : s.ids = b.scheduler.ids.filter (!r.ends ·))
    (closes : ∀ id, r.closes? = some id → r.ends id = true
      ∧ (id ∈ b.scheduler.ids ∨ id ∈ b.leaving))
    (won : ∀ id, r.won? = some id → id ∈ b.scheduler.ids)
    (left : leaving ⊆ b.leaving)
    (stay : ∀ id ∈ b.leaving, r.ends id = false → id ∈ leaving) :
    Settled (log ++ [r]) { b with scheduler := s, leaving := leaving } := by
  have hbegun : b.begun = [] := by rw [begun, free]; rfl
  have hopened : opened (log ++ [r]) = opened log := by
    rw [opened_concat, old]
    exact List.append_nil _
  have hmem : ∀ id, id ∈ s.ids ↔ id ∈ b.scheduler.ids ∧ r.ends id = false := by
    intro id
    rw [ids, List.mem_filter, Bool.not_eq_true']
  have htasks := h.tasks
  rw [hbegun, List.append_nil] at htasks
  refine ⟨fun id => ?_, ?_, ?_, ?_, ?_, ?_, ?_, ?_⟩
  · rw [lasts_concat, hmem, h.active, old]
    simp [and_comm]
  · rw [drawn, hopened]
    exact h.nodup
  · rw [drawn, hopened]
    exact h.below
  · rw [hopened, ids]
    exact List.filter_sublist.trans h.entries
  · rw [won_concat, List.nodup_append]
    refine ⟨h.once, by cases r.won? <;> simp, fun a ha other hother => ?_⟩
    rintro rfl
    obtain ⟨earlier, hearlier, hwon⟩ := List.mem_filterMap.mp ha
    exact (h.closed earlier hearlier a (closes_of_won hwon)).2
      (won a (Option.mem_toList.mp hother))
  · intro r' hr' id hcloses
    rw [hopened]
    rcases List.mem_append.mp hr' with hr' | hr'
    · obtain ⟨hold, hgone⟩ := h.closed r' hr' id hcloses
      exact ⟨hold, fun hid => hgone ((hmem id).mp hid).1⟩
    · rw [List.mem_singleton.mp hr'] at hcloses
      obtain ⟨hends, hid⟩ := closes id hcloses
      refine ⟨?_, fun hs => ?_⟩
      · rcases hid with hid | hid
        · exact h.entries.subset hid
        · exact htasks (List.mem_append_right _ hid)
      · rw [((hmem id).mp hs).2] at hends
        cases hends
  · rw [hopened]
    intro id hid
    refine List.mem_append_left _ (htasks ?_)
    rcases List.mem_append.mp hid with hid | hid
    · exact List.mem_append_left _ hid
    · exact List.mem_append_right _ (left hid)
  · intro id hid
    have hid : id ∈ s.ids := by
      rcases List.mem_append.mp hid with hid | hid
      · exact hid
      · exact absurd (hbegun ▸ hid : id ∈ []) List.not_mem_nil
    obtain ⟨hold, hlasts⟩ := (hmem id).mp hid
    rcases List.mem_append.mp (h.alive (List.mem_append_left _ hold))
      with hrunning | hleaving
    · exact List.mem_append_left _ hrunning
    · exact List.mem_append_right _ (stay id hleaving hlasts)

/-- **A change leaves it known.** -/
theorem settled_change (h : Settled log b) {report : Option (Report C)}
    (change : Change b b' report) : Settled (log ++ report.toList) b' := by
  cases change with
  | refused c fault => exact h.refuse c fault
  | quiet _ ids holder waiting next tasks alive =>
    rw [Option.toList_none, List.append_nil]
    exact h.quiet ids holder waiting next tasks alive
  | drawn c job agenda id next =>
    rw [Option.toList_none, List.append_nil]
    exact h.draw c id next
  | spawned front w back free was =>
    rw [Option.toList_none, List.append_nil]
    exact h.spawn free was
  | inserted c job was => exact h.insert was
  | ended r s leaving free old ids closes won left stay =>
    exact h.finish free old ids closes won left stay

end Settled

/-! ### Steps -/

variable [DecidableEq C]

/-- Is the caller not in the middle of scheduling? -/
def isFree (b : Bustle C) (c : C) : Bool :=
  b.waiting.all (·.1 ≠ c) && b.holder.all (·.1 ≠ c)

/-- Can the caller take the lock for something else? -/
def canLock (b : Bustle C) (c : C) : Bool := b.holder.isNone && b.isFree c

/-- One step. -/
def step (b : Bustle C) : Move C → Bustle C × Option (Report C)
  | .schedule c interval script =>
    if b.isFree c then
      match b.agenda.draw interval script with
      | .ok (job, agenda) =>
        ({ b with agenda := agenda, waiting := b.waiting ++ [(c, job)] },
          none)
      | .error fault => (b, some (.refused c fault))
    else (b, none)
  | .spawn c =>
    match b.holder, b.waiting.find? (·.1 = c) with
    | none, some w =>
      ({ b with
          waiting := b.waiting.eraseP (·.1 = c)
          holder := some w
          running := w.2.id :: b.running }, none)
    | _, _ => (b, none)
  | .insert c =>
    match b.holder with
    | some (owner, job) =>
      if owner = c then
        ({ b with scheduler := b.scheduler.add job, holder := none },
          some (.scheduled c job.id))
      else (b, none)
    | none => (b, none)
  | .cancel c id =>
    if b.canLock c then
      let (found, s) := b.scheduler.cancel id
      ({ b with scheduler := s }, some (.cancelled c id found))
    else (b, none)
  | .shutdown c =>
    if b.canLock c then
      ({ b with scheduler := b.scheduler.shutdown }, some (.stopped c))
    else (b, none)
  | .close => ({ b with hasPool := false }, none)
  | .wake id due turn =>
    if id ∈ b.running then
      if b.hasPool then
        ({ b with scheduler := b.scheduler.update id fun job =>
            { job with due := due, turn := turn } }, none)
      else
        ({ b with
            running := b.running.erase id
            leaving := id :: b.leaving }, none)
    else (b, none)
  | .vanish id =>
    if b.scheduler.isActive id = false ∧ b.holder.all (·.2.id ≠ id) = true
    then ({ b with running := b.running.erase id }, none)
    else (b, none)
  | .finish id =>
    if b.holder.isNone = true ∧ id ∈ b.leaving then
      ({ b with
          scheduler := b.scheduler.remove id
          leaving := b.leaving.erase id }, some (.finished id))
    else (b, none)
  | .elsewhere drawn now hasRuntime =>
    ({ b with agenda := { b.agenda with
        nextId := b.agenda.nextId + drawn
        now := now
        hasRuntime := hasRuntime } }, none)

/-- Steps in one order, and what can be seen of them. -/
def run (b : Bustle C) : List (Move C) → Bustle C × List (Report C)
  | [] => (b, [])
  | m :: rest =>
    let (b, report) := b.step m
    let (b, reports) := run b rest
    (b, report.toList ++ reports)

theorem run_cons (b : Bustle C) (m : Move C) (rest : List (Move C)) :
    b.run (m :: rest) = (((b.step m).1.run rest).1,
      (b.step m).2.toList ++ ((b.step m).1.run rest).2) := rfl

/-! ### Scheduling that nobody interrupts -/

theorem unlocked_of_canLock {b : Bustle C} {c : C}
    (free : b.canLock c = true) :
    b.holder = none ∧ b.isFree c = true ∧ ∀ w ∈ b.waiting, w.1 ≠ c := by
  simp only [canLock, Bool.and_eq_true, Option.isNone_iff_eq_none] at free
  have hfree := free.2
  simp only [isFree, Bool.and_eq_true, List.all_eq_true,
    decide_eq_true_eq] at hfree
  exact ⟨free.1, free.2, hfree.1⟩

/-- To draw a job, to begin its task and to make its entry is what the
scheduler does. -/
theorem run_schedule (b : Bustle C) {c : C} (free : b.canLock c = true)
    (interval : Nat) (script : String) :
    b.run [.schedule c interval script, .spawn c, .insert c]
      = match b.agenda.scheduleOn b.scheduler interval script with
        | .ok (id, s, agenda) =>
          ({ b with
              agenda := agenda
              scheduler := s
              running := id :: b.running }, [.scheduled c id])
        | .error fault => (b, [.refused c fault]) := by
  obtain ⟨hholder, hfree, hwaiting⟩ := unlocked_of_canLock free
  rw [Agenda.scheduleOn_eq]
  cases hdraw : b.agenda.draw interval script with
  | error fault =>
    have hnone : b.waiting.find? (·.1 = c) = none := by
      simpa using hwaiting
    have hrefused : b.step (.schedule c interval script)
        = (b, some (.refused c fault)) := by
      simp only [step, if_pos hfree, hdraw]
    have hspawn : b.step (.spawn c) = (b, none) := by
      simp only [step, hholder, hnone]
    have hinsert : b.step (.insert c) = (b, none) := by
      simp only [step, hholder]
    rw [run_cons, hrefused, run_cons, hspawn, run_cons, hinsert]
    rfl
  | ok drawn =>
    obtain ⟨job, agenda⟩ := drawn
    have hdrawn : b.step (.schedule c interval script)
        = ({ b with agenda := agenda, waiting := b.waiting ++ [(c, job)] },
          none) := by
      simp only [step, if_pos hfree, hdraw]
    have hfind : (b.waiting ++ [(c, job)]).find? (·.1 = c)
        = some (c, job) := by
      rw [List.find?_append, show b.waiting.find? (·.1 = c) = none by
        simpa using hwaiting]
      simp
    have herase : (b.waiting ++ [(c, job)]).eraseP (·.1 = c) = b.waiting := by
      rw [List.eraseP_append_right _ (by simpa using hwaiting)]
      simp
    have hspawned : ({ b with
          agenda := agenda
          waiting := b.waiting ++ [(c, job)] } : Bustle C).step (.spawn c)
        = ({ b with
            agenda := agenda
            holder := some (c, job)
            running := job.id :: b.running }, none) := by
      simp only [step, hholder, hfind, herase]
    have hinserted : ({ b with
          agenda := agenda
          holder := some (c, job)
          running := job.id :: b.running } : Bustle C).step (.insert c)
        = ({ b with
            agenda := agenda
            scheduler := b.scheduler.add job
            holder := none
            running := job.id :: b.running }, some (.scheduled c job.id)) := by
      simp only [step, if_true]
    rw [run_cons, hdrawn, run_cons, hspawned, run_cons, hinserted, ← hholder]
    rfl

/-- To wake up without a pool and to take the entry out is how an engine
whose pool is gone ends an event. -/
theorem run_finish {F : Type} [Dispatch F] {b : Bustle C} {e : Engine F}
    {job : Job} (first : e.shared.agenda.first = some b.scheduler)
    (gone : e.pool = none) (closed : b.hasPool = false)
    (running : job.id ∈ b.running) (free : b.holder = none)
    (due turn : Nat) :
    (e.runEvent job).2.shared.agenda.first
      = some (b.run [.wake job.id due turn, .finish job.id]).1.scheduler := by
  have hengine : (e.runEvent job).2.shared.agenda.first
      = some (b.scheduler.remove job.id) := by
    simp [Engine.runEvent, gone, Engine.modifyAgenda, Agenda.finish,
      Agenda.mapSchedulers, first]
  rw [hengine]
  simp [run, step, running, closed, free]

/-- **Every step makes one of the changes.** -/
theorem step_change (b : Bustle C) (m : Move C) :
    Change b (b.step m).1 (b.step m).2 := by
  cases m with
  | schedule c interval script =>
    simp only [step]
    split
    · cases hdraw : b.agenda.draw interval script with
      | error fault => exact .refused c fault
      | ok drawn =>
        obtain ⟨hid, hnext⟩ := Agenda.draw_ok hdraw
        exact .drawn c drawn.1 drawn.2 hid hnext
    · exact change_refl b
  | spawn c =>
    simp only [step]
    split
    · rename_i w hholder hfind
      obtain ⟨front, back, hwaiting, herase⟩ := Crowd.find?_eraseP hfind
      rw [herase]
      exact .spawned front w back hholder hwaiting
    · exact change_refl b
  | insert c =>
    simp only [step]
    split
    · rename_i owner job hholder
      split
      · exact .inserted c job (by rw [hholder, ‹owner = c›])
      · exact change_refl b
    · exact change_refl b
  | cancel c id =>
    simp only [step]
    split
    · rename_i free
      exact cancel_change (unlocked_of_canLock free).1 c id
    · exact change_refl b
  | shutdown c =>
    simp only [step]
    split
    · rename_i free
      refine .ended _ _ b.leaving (unlocked_of_canLock free).1 rfl ?_ nofun nofun
        (List.Subset.refl _) fun _ h _ => h
      simp [Report.ends, Scheduler.shutdown, Scheduler.ids]
    · exact change_refl b
  | close =>
    exact .quiet _ rfl rfl rfl (Nat.le_refl _) (List.Subset.refl _)
      fun _ _ h => h
  | wake id due turn =>
    simp only [step]
    split
    · rename_i hrunning
      split
      · exact .quiet _ (b.scheduler.ids_update id fun _ => rfl) rfl rfl
          (Nat.le_refl _) (List.Subset.refl _) fun _ _ h => h
      · refine .quiet _ rfl rfl rfl (Nat.le_refl _) ?_ fun other _ h => ?_
        · refine List.append_subset.mpr ⟨fun other hother => ?_,
            List.cons_subset.mpr ⟨List.mem_append_left _ hrunning,
              List.subset_append_right _ _⟩⟩
          exact List.mem_append_left _ (List.mem_of_mem_erase hother)
        · by_cases hid : other = id
          · simp [hid]
          · simpa [hid] using List.mem_append.mp h
    · exact change_refl b
  | vanish id =>
    simp only [step]
    split
    · rename_i hgone
      refine .quiet _ rfl rfl rfl (Nat.le_refl _)
        (List.append_subset.mpr ⟨fun other hother => ?_,
          List.subset_append_right _ _⟩) fun other hother h => ?_
      · exact List.mem_append_left _ (List.mem_of_mem_erase hother)
      · have hid : other ≠ id := by
          rintro rfl
          rcases List.mem_append.mp hother with hother | hother
          · rw [← Scheduler.isActive_iff, hgone.1] at hother
            cases hother
          · obtain ⟨w, hw, heq⟩ := List.mem_map.mp hother
            have hne := hgone.2
            rw [Option.mem_toList.mp hw] at hne
            simp [heq] at hne
        simpa [hid] using List.mem_append.mp h
    · exact change_refl b
  | finish id =>
    simp only [step]
    split
    · rename_i able
      exact finish_change (Option.isNone_iff_eq_none.mp able.1) able.2
    · exact change_refl b
  | elsewhere drawn now hasRuntime =>
    exact .quiet _ rfl rfl rfl (Nat.le_add_right _ _) (List.Subset.refl _)
      fun _ _ h => h

theorem settled_run (moves : List (Move C)) :
    ∀ {log : List (Report C)} {b : Bustle C}, Settled log b →
      Settled (log ++ (b.run moves).2) (b.run moves).1 := by
  induction moves with
  | nil =>
    intro log b h
    rwa [run, List.append_nil]
  | cons m rest ih =>
    intro log b h
    have hrest := ih (settled_change h (step_change b m))
    rwa [List.append_assoc] at hrest

/-! ### All interleavings -/

/-- A caller that is not in the middle of something is refused an event that
cannot be run again and again, and then nothing has changed. -/
theorem step_refused_iff {b : Bustle C} {c : C} (free : b.isFree c = true)
    (interval : Nat) (script : String) :
    (∃ fault, b.step (.schedule c interval script)
        = (b, some (.refused c fault)))
      ↔ interval = 0 ∨ b.agenda.hasRuntime = false := by
  have hdraw := @Agenda.draw_error_iff b.agenda interval script
  rw [← hdraw]
  simp only [step, if_pos free]
  cases b.agenda.draw interval script with
  | error fault => simp
  | ok drawn => simp

theorem step_cancel {b : Bustle C} {c : C} (free : b.canLock c = true)
    (id : EventId) :
    b.step (.cancel c id) = ({ b with scheduler := b.scheduler.remove id },
      some (.cancelled c id (b.scheduler.isActive id))) := by
  simp only [step, if_pos free, Scheduler.cancel]

/-- A task that has ended waits for nobody but the caller that has the
lock. -/
theorem step_finish {b : Bustle C} {id : EventId} (leaving : id ∈ b.leaving) :
    let b' := match b.holder with
      | some (c, _) => (b.step (.insert c)).1
      | none => b
    (b'.step (.finish id)).2 = some (.finished id) := by
  cases hholder : b.holder with
  | none => simp [step, hholder, leaving]
  | some owner => simp [step, hholder, leaving]

/-- **The active events are those that were scheduled and not ended since.**
Whatever steps the callers of a new scheduler and the tasks of its events
have made, in whatever order: an event is active if it was scheduled, and
neither cancelled, nor stopped with all others, nor finished by its own task
since. Each has an entry of its own. Whoever cancels an event is told whether
it was active, so nobody is told so twice; a script that stops an event does
just that. A caller that is refused changes nothing. A task that has ended
leaves no entry, even if it ended before the entry was made: there is no
entry without its task, and a task that has ended takes its entry out as soon
as the lock is free. -/
theorem run_active {F : Type} (agenda : Agenda) (moves : List (Move C)) :
    let b := ((start agenda : Bustle C).run moves).1
    let log := ((start agenda : Bustle C).run moves).2
    (∀ id, b.scheduler.isActive id = true
        ↔ Since (·.opens? = some id) (·.ends id = false) log)
      ∧ b.scheduler.ids.Nodup
      ∧ (∀ c id, b.canLock c = true →
        b.step (.cancel c id)
            = ({ b with scheduler := b.scheduler.remove id },
              some (.cancelled c id (b.scheduler.isActive id)))
          ∧ ∀ (w : World F) (context : HostContext) (args : List Value)
              (object : TableId),
            w.interpreter.host = some context →
            context.services.provides .event = false →
            w.shared.agenda.first = some b.scheduler →
            Argument.nth args 0 = .table object → w.Carries object id →
            (EventFunction.stop.run args : Action F _).run.run w
              = (.ok [.bool (b.scheduler.isActive id)],
                { w with shared.agenda.first := some (b.scheduler.remove id) }))
      ∧ (log.filterMap Report.won?).Nodup
      ∧ (∀ c interval script, b.isFree c = true →
        ((∃ fault, b.step (.schedule c interval script)
            = (b, some (.refused c fault)))
          ↔ interval = 0 ∨ b.agenda.hasRuntime = false))
      ∧ (∀ id, .finished id ∈ log → b.scheduler.isActive id = false)
      ∧ (∀ id, b.scheduler.isActive id = true →
        id ∈ b.running ∨ id ∈ b.leaving)
      ∧ ∀ id ∈ b.leaving,
        let b' := match b.holder with
          | some (c, _) => (b.step (.insert c)).1
          | none => b
        (b'.step (.finish id)).2 = some (.finished id) := by
  intro b log
  have h : Settled log b := settled_run moves (settled_start agenda)
  refine ⟨fun id => ?_, ?_, fun c id free => ⟨step_cancel free id, ?_⟩, h.once,
    fun c interval script free => step_refused_iff free interval script,
    fun id hid => ?_, fun id hactive => ?_, fun id => step_finish⟩
  · rw [Scheduler.isActive_iff]
    exact h.active id
  · have hnodup := h.nodup
    rw [drawn, List.nodup_append] at hnodup
    exact h.entries.nodup hnodup.1
  · intro w context args object host own first self carries
    exact EventFunction.run_stop host own first self carries
  · have hgone := (h.closed _ hid id rfl).2
    rw [← Scheduler.isActive_iff] at hgone
    exact Bool.eq_false_iff.mpr hgone
  · rw [Scheduler.isActive_iff] at hactive
    exact List.mem_append.mp (h.alive (List.mem_append_left _ hactive))

/-- The task of the first event finds the pool gone before its entry is made;
the other event is cancelled, which succeeds once. -/
def hurry : List (Move Bool) :=
  [.elsewhere 0 0 true, .schedule false 5 "tick", .spawn false, .close,
    .wake 0 0 0, .finish 0, .insert false, .schedule true 5 "tock",
    .finish 0, .spawn true, .insert true, .cancel false 1, .cancel true 1,
    .schedule true 0 "tack"]

theorem run_hurry :
    let b := ((start {} : Bustle Bool).run hurry).1
    let log := ((start {} : Bustle Bool).run hurry).2
    log = [.scheduled false 0, .finished 0, .scheduled true 1,
        .cancelled false 1 true, .cancelled true 1 false,
        .refused true (.service "event interval must be greater than zero")]
      ∧ b.scheduler.isActive 0 = false := by
  have hlog : ((start {} : Bustle Bool).run hurry).2
      = [.scheduled false 0, .finished 0, .scheduled true 1,
        .cancelled false 1 true, .cancelled true 1 false,
        .refused true (.service "event interval must be greater than zero")]
      := rfl
  exact ⟨hlog, (run_active (F := Unit) {} hurry).2.2.2.2.2.1 0
    (by rw [hlog]; simp)⟩

end Bustle

end ScriptHost
