/-
ScriptHost.Proofs.Script.Outside — steps that are done outside of a run.

Where no function starts a run, no step does, and no script of steps
(`Script.runFrom_outside`). A script of steps also never ends by a panic
(`Script.runFrom_steady`): a step that panics is noted and the script goes
on.
-/
import ScriptHost.Proofs.Script.Request
import ScriptHost.Proofs.Script.Work
import ScriptHost.Script.Source

namespace ScriptHost

variable {F : Type}

open ScriptHost.Action

/-! ## Steps -/

/-- What a script does by itself starts no run. -/
theorem Action.StaysOutside.of_works {α : Type} {a : Action F α}
    (h : Works a) : StaysOutside a :=
  fun w hw => (h w).exchange.trans hw

namespace Step

variable [Dispatch F]

theorem invoke_outside
    (functions : ∀ (f : F) args, StaysOutside (Dispatch.run f args))
    (c : Callable F) (args : List Value) :
    StaysOutside (Action.invoke c args) := by
  cases c with
  | member name f => exact StaysOutside.interpreter.bind fun _ => functions f _
  | plain f => exact functions f args
  | reserved name => exact .of_indifferent (.complain _)
  | inert => exact .of_indifferent (.pure _)

/-- What a step does outside of a run starts none. -/
theorem perform_outside
    (functions : ∀ (f : F) args, StaysOutside (Dispatch.run f args))
    (results : Results) (deed : Deed) :
    StaysOutside (perform results deed : Action F (Option (List Value))) := by
  cases deed with
  | call callee args =>
    refine (StaysOutside.of_works (resolve_works results callee)).bind
      fun (found, front) => ?_
    cases found with
    | none => exact .of_indifferent (.pure _)
    | some function =>
      exact (StaysOutside.of_works (evalItems_works results args)).bind
        fun values => (invoke_outside functions function _).bind fun _ =>
          .of_indifferent (.pure _)
  | value e =>
    exact .of_works ((eval_works results e).bind fun _ => .pure _)
  | write step path e =>
    exact .of_works ((evalItems_works results path).bind fun keys =>
      (eval_works results e).bind fun v =>
        (write_works _ keys v).bind fun _ => .pure _)
  | raise text => exact .of_indifferent (.complain _)

end Step

/-! ## Scripts -/

namespace Script

variable [Dispatch F]

/-- What a step notes that was done in a world and left another one. -/
def recordOf (w : World F) (result : Except Abort (Option (List Value)))
    (w' : World F) : Record :=
  { outcome := Step.outcomeOf w'.interpreter.heap result
    asked := Step.askedSince w.shared.history.length w'.shared.history }

/-- A script does its first step and ends with it, or goes on in the world
that it has left. -/
theorem runFrom_cons (results : Step.Results) (step : Step) (rest : Script)
    {w w' : World F} {result : Except Abort (Option (List Value))}
    (h : (Step.perform results step.deed).run.run (Step.tick w)
      = (result, w')) :
    (runFrom results (step :: rest)).run w
      = match step.fatal? result with
        | some e =>
          (⟨[recordOf w result w'], .error (.raised e)⟩, w')
        | none =>
          let later := (runFrom
            (results.push (Step.firstValue result)) rest).run w'
          ({ later.1 with
              report := recordOf w result w' :: later.1.report }, later.2) := by
  rw [runFrom]
  simp only [StateT.run_bind, StateT.run_get, StateT.run_modify, pure_bind]
  rw [h]
  show StateT.run _ w' = _
  dsimp only
  cases step.fatal? result <;> rfl

/-- **Outside of a run, a script of steps starts none.** -/
theorem runFrom_outside
    (functions : ∀ (f : F) args, StaysOutside (Dispatch.run f args))
    (script : Script) :
    ∀ (results : Step.Results) (w : World F), w.Outside →
      ((runFrom results script).run w).2.Outside := by
  induction script with
  | nil => exact fun _ _ hw => hw
  | cons step rest ih =>
    intro results w hw
    have hout := Step.perform_outside functions results step.deed
      (Step.tick w) hw
    rcases h : (Step.perform results step.deed).run.run (Step.tick w)
      with ⟨result, w'⟩
    rw [h] at hout
    rw [runFrom_cons results step rest h]
    cases step.fatal? result with
    | some e => exact hout
    | none => exact ih _ w' hout

/-- A script of steps never ends by a panic. -/
theorem runFrom_steady (script : Script) :
    ∀ (results : Step.Results) (w : World F),
      ((runFrom results script).run w).1.ending ≠ .error .panicked := by
  induction script with
  | nil => exact fun _ _ => nofun
  | cons step rest ih =>
    intro results w
    rcases h : (Step.perform results step.deed).run.run (Step.tick w)
      with ⟨result, w'⟩
    rw [runFrom_cons results step rest h]
    cases step.fatal? result with
    | some e => exact nofun
    | none => exact ih _ w'

theorem runText_steady (text : String) (w : World F) :
    ((runText text).run w).1.ending ≠ .error .panicked := by
  unfold runText
  split
  · exact runFrom_steady _ _ w
  · exact nofun

end Script

end ScriptHost
