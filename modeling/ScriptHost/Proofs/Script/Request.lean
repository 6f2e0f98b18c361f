/-
ScriptHost.Proofs.Script.Request — actions and the request of the run.

An action that neither looks at the request nor changes it is `Indifferent`:
with another request in the world, or with none, it returns the same and
does the same to the rest. An action that `NeedsRequest` fails outside of a
run. Both are kept by the ways of putting actions together, so they are
shown of a function by following its text; the lemmas are tagged for `grind`
to do that.
-/
import ScriptHost.Proofs.Script.Action
import ScriptHost.Script.Call

namespace ScriptHost

/-- The world with another request and response, or with none. -/
def World.withExchange {F : Type} (w : World F) (ex : Option Exchange) :
    World F :=
  { w with interpreter.exchange := ex }

/-- There is no run going on in the world. -/
def World.Outside {F : Type} (w : World F) : Prop :=
  w.interpreter.exchange = none

theorem World.Outside.withExchange {F : Type} {w : World F} (h : w.Outside) :
    w.withExchange none = w := by
  rw [World.withExchange, ← h]

namespace Action

variable {F α β : Type}

/-! ## Indifference -/

/-- The action neither looks at the request of the run nor changes it. -/
def Indifferent (a : Action F α) : Prop :=
  ∀ w ex, a.run.run (w.withExchange ex)
    = ((a.run.run w).1, (a.run.run w).2.withExchange ex)

namespace Indifferent

@[grind .] theorem pure (x : α) : Indifferent (Pure.pure x : Action F α) :=
  fun _ _ => rfl

@[grind .] theorem raise (e : ScriptError) :
    Indifferent (Action.raise e : Action F α) := fun _ _ => rfl

@[grind .] theorem complain (c : Complaint) :
    Indifferent (Action.complain c : Action F α) := fun _ _ => rfl

@[grind .] theorem fail (f : HostFault) :
    Indifferent (Action.fail f : Action F α) := fun _ _ => rfl

@[grind .] theorem panic : Indifferent (Action.panic : Action F α) :=
  fun _ _ => rfl

@[grind .] theorem shared : Indifferent (Action.shared : Action F Shared) :=
  fun _ _ => rfl

@[grind .] theorem modifyShared (f : Shared → Shared) :
    Indifferent (Action.modifyShared f : Action F Unit) := fun _ _ => rfl

@[grind ←] theorem bind {a : Action F α} {f : α → Action F β}
    (ha : Indifferent a) (hf : ∀ x, Indifferent (f x)) :
    Indifferent (a >>= f) := by
  intro w ex
  rw [run_bind, run_bind, ha w ex]
  rcases a.run.run w with ⟨e | x, w'⟩
  · rfl
  · exact hf x w' ex

/-- Looking at the interpreter, but not at its request. -/
theorem reading {f : Interpreter F → Action F α}
    (hf : ∀ i, Indifferent (f i))
    (same : ∀ (i : Interpreter F) ex, f { i with exchange := ex } = f i) :
    Indifferent (do f (← interpreter)) := by
  intro w ex
  rw [run_bind, run_bind, run_interpreter, run_interpreter]
  exact (congrArg (fun a => a.run.run (w.withExchange ex))
    (same w.interpreter ex)).trans (hf w.interpreter w ex)

theorem modifyInterpreter {f : Interpreter F → Interpreter F}
    (same : ∀ (i : Interpreter F) ex,
      f { i with exchange := ex } = { f i with exchange := ex }) :
    Indifferent (Action.modifyInterpreter f) := by
  intro w ex
  rw [run_modifyInterpreter, run_modifyInterpreter]
  unfold World.withExchange
  rw [same w.interpreter ex]

@[grind .] theorem ofExcept (r : Except ScriptError α) :
    Indifferent (Action.ofExcept r : Action F α) := by
  cases r with
  | ok x => exact pure x
  | error e => exact raise e

@[grind .] theorem ofOption (c : Complaint) (r : Option α) :
    Indifferent (Action.ofOption c r : Action F α) := by
  cases r with
  | some x => exact pure x
  | none => exact complain c

@[grind .] theorem argument (read : Argument.Reader α) (args : List Value)
    (n : Nat) : Indifferent (Action.argument read args n : Action F α) :=
  ofExcept _

@[grind .] theorem host :
    Indifferent (Action.host : Action F HostContext) := by
  refine reading (fun i => ?_) fun _ _ => rfl
  cases i.host with
  | some context => exact pure context
  | none => exact complain _

@[grind .] theorem ofJson (j : Json) :
    Indifferent (Action.ofJson j : Action F Value) := fun _ _ => rfl

@[grind .] theorem ofJson? (j : Option Json) :
    Indifferent (Action.ofJson? j : Action F Value) := by
  cases j with
  | some j => exact ofJson j
  | none => exact pure _

@[grind .] theorem toJson (v : Value) :
    Indifferent (Action.toJson v : Action F Json) := by
  refine reading (fun i => ?_) fun _ _ => rfl
  cases i.heap.toJson v with
  | ok j => exact pure j
  | error e => exact raise _

@[grind .] theorem newObject (className : String) (state : ObjectState) :
    Indifferent (Action.newObject className state : Action F Value) := by
  refine reading (fun i => ?_) fun _ _ => rfl
  split
  · exact raise _
  · exact (modifyInterpreter fun _ _ => rfl).bind fun _ => pure _

@[grind .] theorem handleOf (object : TableId) :
    Indifferent (Action.handleOf object : Action F HandleId) := by
  refine reading (fun i => ?_) fun _ _ => rfl
  split
  · exact pure _
  · exact raise _

@[grind .] theorem stateOf (kind : ObjectState → Option α)
    (object : TableId) :
    Indifferent (Action.stateOf kind object : Action F α) := by
  refine (handleOf object).bind fun id => ?_
  refine reading (fun i => ?_) fun _ _ => rfl
  split
  · exact pure _
  · exact raise _

@[grind .] theorem setState (object : TableId) (state : ObjectState) :
    Indifferent (Action.setState object state : Action F Unit) :=
  (handleOf object).bind fun _ => modifyInterpreter fun _ _ => rfl

@[grind .] theorem serve (call : ServiceCall) :
    Indifferent (Action.serve call : Action F call.Reply) := by
  refine host.bind fun context => ?_
  dsimp only
  split
  · exact fail _
  · refine shared.bind fun s => ?_
    split
    · exact (modifyShared _).bind fun _ => pure _
    · exact (modifyShared _).bind fun _ => fail _

@[grind .] theorem schedule (interval : Nat) (script : String) :
    Indifferent (Action.schedule interval script : Action F EventId) := by
  refine host.bind fun context => ?_
  split
  · exact serve _
  · refine shared.bind fun s => ?_
    split
    · exact (modifyShared _).bind fun _ => pure _
    · exact fail _

@[grind .] theorem cancel (event : EventId) :
    Indifferent (Action.cancel event : Action F Bool) := by
  refine host.bind fun context => ?_
  split
  · exact serve _
  · refine shared.bind fun s => ?_
    split
    · exact (modifyShared _).bind fun _ => pure _
    · exact fail _

/-- Outside of a run it stays so. -/
theorem outside {a : Action F α} (h : Indifferent a) {w : World F}
    (hw : w.Outside) : (a.run.run w).2.Outside := by
  have hrun := h w none
  rw [hw.withExchange] at hrun
  rw [hrun]
  rfl

end Indifferent

/-! ## Need of a request -/

/-- Outside of a run the action fails: for want of a request, or else with
the error that it ends with in a run as well, whatever the request. -/
def NeedsRequestAt (a : Action F α) (w : World F) : Prop :=
  (a.run.run w).1 = .error (.raised (.fault .noActiveRequest))
    ∨ ∃ e, (a.run.run w).1 = .error e
      ∧ ∀ ex, (a.run.run (w.withExchange (some ex))).1 = .error e

/-- Outside of a run the action fails, and it stays outside. -/
def NeedsRequest (a : Action F α) : Prop :=
  ∀ w : World F, w.Outside →
    NeedsRequestAt a w ∧ (a.run.run w).2.Outside

namespace NeedsRequest

@[grind .] theorem exchange :
    NeedsRequest (Action.exchange : Action F Exchange) := by
  intro w hw
  have hrun := run_exchange w
  rw [show w.interpreter.exchange = none from hw] at hrun
  exact ⟨.inl (by rw [hrun]), by rw [hrun]; exact hw⟩

/-- What comes after does not count. -/
@[grind ←] theorem first {a : Action F α} {f : α → Action F β}
    (ha : NeedsRequest a) : NeedsRequest (a >>= f) := by
  intro w hw
  obtain ⟨hfails, hout⟩ := ha w hw
  unfold NeedsRequestAt at *
  rw [run_bind]
  rcases hrun : a.run.run w with ⟨e | x, w'⟩
  · rw [hrun] at hfails hout
    refine ⟨?_, hout⟩
    rcases hfails with hfails | ⟨e', he, hsame⟩
    · cases hfails
      exact .inl rfl
    · cases he
      refine .inr ⟨e, rfl, fun ex => ?_⟩
      have hex := hsame ex
      rw [run_bind]
      rcases hrun' : a.run.run (w.withExchange (some ex)) with ⟨e' | x, w''⟩
      · rw [hrun'] at hex
        cases hex
        rfl
      · rw [hrun'] at hex
        cases hex
  · rw [hrun] at hfails
    rcases hfails with hfails | ⟨e', he, -⟩
    · cases hfails
    · cases he

/-- An indifferent action may come before, where it leads to no need. -/
theorem bind_at {a : Action F α} {f : α → Action F β} (ha : Indifferent a)
    {w : World F}
    (hf : ∀ x w', a.run.run w = (.ok x, w') → NeedsRequestAt (f x) w') :
    NeedsRequestAt (a >>= f) w := by
  unfold NeedsRequestAt at *
  simp only [run_bind, ha w]
  rcases hrun : a.run.run w with ⟨e | x, w'⟩
  · exact .inr ⟨e, rfl, fun _ => rfl⟩
  · exact hf x w' hrun

/-- An indifferent action may come before. -/
@[grind ←] theorem bind {a : Action F α} {f : α → Action F β}
    (ha : Indifferent a) (hf : ∀ x, NeedsRequest (f x)) :
    NeedsRequest (a >>= f) := by
  intro w hw
  have hout := ha.outside hw
  constructor
  · refine bind_at ha fun x w' hrun => ?_
    rw [hrun] at hout
    exact (hf x w' hout).1
  · rw [run_bind]
    rcases hrun : a.run.run w with ⟨e | x, w'⟩
    · rw [hrun] at hout
      exact hout
    · rw [hrun] at hout
      exact (hf x w' hout).2

@[grind .] theorem modifyExchange (f : Exchange → Exchange) :
    NeedsRequest (Action.modifyExchange f : Action F Unit) := first exchange

end NeedsRequest

/-! ## Staying outside -/

/-- Outside of a run it stays so. -/
def StaysOutside (a : Action F α) : Prop :=
  ∀ w : World F, w.Outside → (a.run.run w).2.Outside

namespace StaysOutside

@[grind ←] theorem of_indifferent {a : Action F α} (h : Indifferent a) :
    StaysOutside a := fun _ hw => h.outside hw

@[grind ←] theorem of_needsRequest {a : Action F α} (h : NeedsRequest a) :
    StaysOutside a := fun w hw => (h w hw).2

@[grind .] theorem interpreter :
    StaysOutside (Action.interpreter : Action F (Interpreter F)) :=
  fun _ hw => hw

@[grind ←] theorem bind {a : Action F α} {f : α → Action F β}
    (ha : StaysOutside a) (hf : ∀ x, StaysOutside (f x)) :
    StaysOutside (a >>= f) := by
  intro w hw
  have hout := ha w hw
  rw [run_bind]
  rcases hrun : a.run.run w with ⟨e | x, w'⟩
  · rw [hrun] at hout
    exact hout
  · rw [hrun] at hout
    exact hf x w' hout

end StaysOutside

end Action

end ScriptHost
