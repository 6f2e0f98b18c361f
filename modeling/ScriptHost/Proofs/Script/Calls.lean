/-
ScriptHost.Proofs.Script.Calls — a run as a row of calls.

All that a script does beside its calls is its own work. So what holds of a
run follows from what its calls do: `Script.runFrom_calls` carries a
property, of the calls so far and the world, through a script of any length.
The property must outlast the script's own work, the time that passes, and
each call.
-/
import ScriptHost.Proofs.Script.Outside

namespace ScriptHost

variable {F : Type}

/-- A call of a function, and the world in which it is made. -/
structure Call (F : Type) where
  function : Callable F
  args : List Value
  world : World F

namespace Call

/-- In front of each of some calls, which come after others, a property
holds of the calls before it and its world. -/
def Throughout (P : List (Call F) → World F → Prop)
    (earlier calls : List (Call F)) : Prop :=
  ∀ before c after, calls = before ++ c :: after →
    P (earlier ++ before) c.world

theorem throughout_nil (P : List (Call F) → World F → Prop)
    (earlier : List (Call F)) : Throughout P earlier [] := by
  intro before c after hsplit
  simp at hsplit

theorem throughout_cons {P : List (Call F) → World F → Prop}
    {earlier later : List (Call F)} {c : Call F} (first : P earlier c.world)
    (rest : Throughout P (earlier ++ [c]) later) :
    Throughout P earlier (c :: later) := by
  intro before c' after hsplit
  cases before with
  | nil =>
    obtain ⟨rfl, rfl⟩ := List.cons.inj hsplit
    rw [List.append_nil]
    exact first
  | cons b before =>
    obtain ⟨rfl, hlater⟩ := List.cons.inj hsplit
    have h := rest before c' after hlater
    rwa [List.append_assoc] at h

theorem throughout_append {P : List (Call F) → World F → Prop}
    {earlier first later : List (Call F)} (start : Throughout P earlier first)
    (rest : Throughout P (earlier ++ first) later) :
    Throughout P earlier (first ++ later) := by
  intro before c after hsplit
  rcases List.append_eq_append_iff.mp hsplit with
    ⟨middle, rfl, hlater⟩ | ⟨middle, hfirst, hafter⟩
  · have h := rest middle c after hlater
    rwa [List.append_assoc] at h
  · cases middle with
    | nil =>
      rw [List.append_nil] at hfirst
      subst hfirst
      have h := rest [] c after hafter.symm
      rwa [List.append_nil] at h
    | cons d middle =>
      obtain ⟨rfl, -⟩ := List.cons.inj hafter
      exact start before c middle hfirst

variable [Dispatch F]

/-- How the call ends, and the world that it leaves. -/
def ended (c : Call F) : Except Abort (List Value) × World F :=
  (Action.invoke c.function c.args).run.run c.world

/-- Does the call succeed? -/
def succeeds (c : Call F) : Bool :=
  match c.ended.1 with
  | .ok _ => true
  | .error _ => false

end Call

namespace Step

/-- The call that a step makes, none if it names no function. -/
def call? (results : Results) (w : World F) : Deed → Option (Call F)
  | .call callee args =>
    match (resolve results callee).run.run w with
    | (.ok (some function, front), w) =>
      match (evalItems results args).run.run w with
      | (.ok values, w) => some ⟨function, front ++ values, w⟩
      | (.error _, _) => none
    | _ => none
  | _ => none

variable [Dispatch F]

/-- **A step is a script's own work, and then maybe one call.** -/
theorem perform_cases (results : Results) (deed : Deed) (w : World F) :
    (call? results w deed = none
        ∧ w.Worked ((perform results deed).run.run w).2)
      ∨ ∃ c, call? results w deed = some c ∧ w.Worked c.world
        ∧ ((perform results deed).run.run w).2 = c.ended.2 := by
  cases deed with
  | call callee args =>
    rw [perform, call?, run_bind]
    rcases hfound : (resolve results callee).run.run w
      with ⟨e | ⟨found, front⟩, w₁⟩
    all_goals have hresolve := (resolve_works results callee).after hfound
    · exact .inl ⟨rfl, hresolve⟩
    cases found with
    | none => exact .inl ⟨rfl, hresolve⟩
    | some function =>
      dsimp only
      rw [run_bind]
      rcases hvalues : (evalItems results args).run.run w₁
        with ⟨e | values, w₂⟩
      all_goals
        have hargs := hresolve.trans
          ((evalItems_works results args).after hvalues)
      · exact .inl ⟨rfl, hargs⟩
      · refine .inr ⟨⟨function, front ++ values, w₂⟩, rfl, hargs, ?_⟩
        dsimp only [Call.ended]
        rw [run_bind]
        rcases (Action.invoke function (front ++ values)).run.run w₂
          with ⟨e | returned, w₃⟩ <;> rfl
  | value e =>
    exact .inl ⟨rfl, ((eval_works results e).bind fun _ => .pure _) w⟩
  | write step path e =>
    exact .inl ⟨rfl, ((evalItems_works results path).bind fun keys =>
      (eval_works results e).bind fun v =>
        (write_works _ keys v).bind fun _ => .pure _) w⟩
  | raise text => exact .inl ⟨rfl, .refl w⟩

end Step

namespace Script

variable [Dispatch F]

/-- The calls that the steps of a script make, given the results of those
before. -/
def callsFrom (results : Step.Results) : Script → World F → List (Call F)
  | [], _ => []
  | step :: rest, w =>
    let (result, w') := (Step.perform results step.deed).run.run (Step.tick w)
    (Step.call? results (Step.tick w) step.deed).toList
      ++ match step.fatal? result with
        | some _ => []
        | none => callsFrom (results.push (Step.firstValue result)) rest w'

/-- The calls that a script makes. -/
def calls (script : Script) (w : World F) : List (Call F) :=
  callsFrom #[] script w

/-- **What outlasts work, time and calls holds throughout a run**: in front
of each of its calls, of the calls before it, and in the end of all. -/
theorem runFrom_calls {P : List (Call F) → World F → Prop}
    (work : ∀ cs w w', P cs w → w.Worked w' → P cs w')
    (tick : ∀ cs w, P cs w → P cs (Step.tick w))
    (call : ∀ cs c, P cs c.world → P (cs ++ [c]) c.ended.2)
    (script : Script) :
    ∀ (results : Step.Results) (w : World F) (cs : List (Call F)), P cs w →
      Call.Throughout P cs (callsFrom results script w)
      ∧ P (cs ++ callsFrom results script w)
        ((runFrom results script).run w).2 := by
  induction script with
  | nil =>
    intro results w cs h
    refine ⟨Call.throughout_nil P cs, ?_⟩
    rw [callsFrom, List.append_nil]
    exact h
  | cons step rest ih =>
    intro results w cs h
    rcases hrun : (Step.perform results step.deed).run.run (Step.tick w)
      with ⟨result, w'⟩
    -- What follows the step, in the world that it leaves.
    have follow : ∀ cs, P cs w' →
        let later := match step.fatal? result with
          | some _ => []
          | none => callsFrom (results.push (Step.firstValue result)) rest w'
        Call.Throughout P cs later
          ∧ P (cs ++ later) ((runFrom results (step :: rest)).run w).2 := by
      intro cs h'
      rw [runFrom_cons results step rest hrun]
      cases step.fatal? result with
      | some e =>
        refine ⟨Call.throughout_nil P cs, ?_⟩
        rw [List.append_nil]
        exact h'
      | none => exact ih _ w' cs h'
    have hstep := Step.perform_cases results step.deed (Step.tick w)
    rw [callsFrom, hrun] at *
    dsimp only at *
    obtain ⟨hnone, hwork⟩ | ⟨c, hsome, hwork, hleft⟩ := hstep
    · rw [hnone]
      exact follow cs (work _ _ _ (tick _ _ h) hwork)
    · have hc := work _ _ _ (tick _ _ h) hwork
      have hafter := call cs c hc
      rw [← hleft] at hafter
      obtain ⟨hthrough, hend⟩ := follow (cs ++ [c]) hafter
      rw [hsome]
      refine ⟨Call.throughout_cons hc hthrough, ?_⟩
      rwa [List.append_assoc] at hend

end Script

end ScriptHost
