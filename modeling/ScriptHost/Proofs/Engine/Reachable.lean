/-
ScriptHost.Proofs.Engine.Reachable — the worlds that an instance can come
into.

A `Reachable` world has grown from one interpreter by the work of scripts
and by calls of functions, whatever else happened meanwhile: runs began and
ended, time passed, and other instances changed what all share. Scripts of
steps stay among these worlds (`Reachable.runFrom`, `Reachable.execute`).
Where no function changes the frame of an interpreter, none of this does
(`Reachable.continues`): a function that was there once still does the same.
-/
import ScriptHost.Engine.Basic
import ScriptHost.Proofs.Script.Calls

namespace ScriptHost

variable {F : Type}

/-- The other interpreter has the same functions, and maybe more, and the
same globals table, object types and host. -/
structure Interpreter.Continues (i i' : Interpreter F) : Prop where
  functions : i.functions.size ≤ i'.functions.size
  callable : ∀ id, id < i.functions.size → i'.callable id = i.callable id
  globals : i'.globals = i.globals
  classes : i'.classes = i.classes
  host : i'.host = i.host

namespace Interpreter.Continues

variable {i i' i'' : Interpreter F}

theorem refl (i : Interpreter F) : i.Continues i :=
  ⟨Nat.le_refl _, fun _ _ => rfl, rfl, rfl, rfl⟩

theorem trans (h : i.Continues i') (h' : i'.Continues i'') :
    i.Continues i'' where
  functions := Nat.le_trans h.functions h'.functions
  callable id hid := by
    rw [h'.callable id (Nat.lt_of_lt_of_le hid h.functions),
      h.callable id hid]
  globals := h'.globals.trans h.globals
  classes := h'.classes.trans h.classes
  host := h'.host.trans h.host

theorem of_sameFrame {w w' : World F} (h : w.SameFrame w') :
    w.interpreter.Continues w'.interpreter where
  functions := Nat.le_of_eq (by rw [h.functions])
  callable id _ := by rw [Interpreter.callable, h.functions]; rfl
  globals := h.globals
  classes := h.classes
  host := h.host

theorem of_worked {w w' : World F} (h : w.Worked w') :
    w.interpreter.Continues w'.interpreter :=
  ⟨h.functions, h.callable, h.globals, h.classes, h.host⟩

end Interpreter.Continues

/-- A world that the interpreter can come into. -/
inductive Reachable [Dispatch F] (i : Interpreter F) : World F → Prop where
  | start (shared : Shared) : Reachable i ⟨i, shared⟩
  /-- A run begins or ends. -/
  | exchange {w : World F} (ex : Option Exchange) (h : Reachable i w) :
    Reachable i (w.withExchange ex)
  /-- Time passes, or others change what all interpreters share. -/
  | elsewhere {w : World F} (shared : Shared) (h : Reachable i w) :
    Reachable i { w with shared := shared }
  /-- A script works by itself. -/
  | work {w w' : World F} (h : Reachable i w) (worked : w.Worked w') :
    Reachable i w'
  /-- Any function is called with any arguments. -/
  | call {w : World F} (c : Callable F) (args : List Value)
    (h : Reachable i w) :
    Reachable i ((Action.invoke c args).run.run w).2

namespace Reachable

variable [Dispatch F] {i : Interpreter F} {w : World F}

/-! ## Runs -/

/-- **A script of steps stays among the reachable worlds**, also where it
calls its functions. -/
theorem runFrom (h : Reachable i w) (script : Script)
    (results : Step.Results) :
    (∀ c ∈ Script.callsFrom results script w, Reachable i c.world)
      ∧ Reachable i ((Script.runFrom results script).run w).2 := by
  obtain ⟨hcalls, hend⟩ := Script.runFrom_calls
    (P := fun _ w => Reachable i w) (fun _ _ _ h worked => h.work worked)
    (fun _ _ h => h.elsewhere _) (fun _ c h => h.call _ _)
    script results w [] h
  refine ⟨fun c hc => ?_, hend⟩
  obtain ⟨before, after, hsplit⟩ := List.append_of_mem hc
  exact hcalls before c after hsplit

theorem afterRun (h : Reachable i w) (ending : Except Abort Unit)
    (now : Shared) :
    Reachable i ⟨Instance.afterRun ending w.interpreter, now⟩ := by
  match ending with
  | .ok () => exact (h.exchange none).elsewhere now
  | .error (.raised e) => exact (h.exchange none).elsewhere now
  | .error .panicked => exact h.elsewhere now

theorem execute {inst : Instance (Interpreter F)} {shared : Shared}
    (h : Reachable i ⟨inst.state, shared⟩) (script : Script)
    (request : Request) (now : Shared) :
    Reachable i
      ⟨(inst.execute script.run request shared).inst.state, now⟩ :=
  ((h.exchange (some (Exchange.start request))).runFrom script
    #[]).2.afterRun _ now

theorem perform {inst : Instance (Interpreter F)} {shared : Shared}
    (h : Reachable i ⟨inst.state, shared⟩) (script : Script)
    (now : Shared) :
    Reachable i ⟨(inst.perform script.run shared).2.1.state, now⟩ :=
  (h.runFrom script #[]).2.elsewhere now

/-! ## What lasts -/

theorem invoke_keepsFrame
    (functions : ∀ (f : F) args, Action.KeepsFrame (Dispatch.run f args))
    (c : Callable F) (args : List Value) :
    Action.KeepsFrame (Action.invoke c args) := by
  cases c with
  | member name f =>
    exact Action.Quiet.interpreter.keepsFrame.bind fun _ => functions f _
  | plain f => exact functions f args
  | reserved name => exact (Action.Quiet.complain _).keepsFrame
  | inert => exact (Action.Quiet.pure _).keepsFrame

/-- **Functions, object types and host last for good.** -/
theorem continues
    (functions : ∀ (f : F) args, Action.KeepsFrame (Dispatch.run f args))
    (h : Reachable i w) : i.Continues w.interpreter := by
  induction h with
  | start shared => exact .refl i
  | exchange ex _ ih =>
    exact ⟨ih.functions, ih.callable, ih.globals, ih.classes, ih.host⟩
  | elsewhere shared _ ih => exact ih
  | work _ worked ih =>
    exact ih.trans (.of_worked worked)
  | call c args _ ih =>
    exact ih.trans (.of_sameFrame (invoke_keepsFrame functions c args _))

end Reachable

end ScriptHost
