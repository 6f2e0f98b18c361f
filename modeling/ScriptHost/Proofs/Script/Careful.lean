/-
ScriptHost.Proofs.Script.Careful — actions that leave no trace when they
fail.

What an action has done before it was cut short stays done. An action that
is `Careful` therefore checks everything first: it begins `Quiet`, with
parts that change nothing, then does its one deed, and ends with parts that
cannot fail, which are `Sure`. So a careful action that fails has changed
nothing (`World.Intact`); and whether it fails or not, the interpreter keeps
its functions, its object types and its host (`World.SameFrame`).

The three are shown of a function by following its text. The lemmas are
tagged for `grind` to do that where the text is plain.

An action that asks a service does so once, or ends with an error at once
because the service is not there (`World.Asks`).
-/
import ScriptHost.Proofs.Script.Action
import ScriptHost.Script.Call

namespace ScriptHost

/-- Is the table of an object type there? -/
def Interpreter.HasType {F : Type} (i : Interpreter F) (className : String) :
    Prop :=
  (i.classes.get? className).isSome = true

/-! ## Two worlds -/

namespace World

variable {F : Type} {w w' w'' : World F}

/-- The interpreter has the same functions, object types and host, and its
globals are in the same table. -/
structure SameFrame (w w' : World F) : Prop where
  functions : w'.interpreter.functions = w.interpreter.functions
  classes : w'.interpreter.classes = w.interpreter.classes
  globals : w'.interpreter.globals = w.interpreter.globals
  host : w'.interpreter.host = w.interpreter.host

/-- Is it of no consequence that a service was asked this? It has failed,
or it has only drawn something. -/
def IsIdle (q : Interaction) : Prop :=
  q.failed = true ∨ q.call.kind = .template

/-- Nothing has changed but what the services were asked, and that is of no
consequence. -/
structure Intact (w w' : World F) : Prop where
  interpreter : w'.interpreter = w.interpreter
  shared : ∃ asked : List Interaction, (∀ q ∈ asked, IsIdle q)
    ∧ w'.shared = { w.shared with history := asked ++ w.shared.history }

theorem SameFrame.refl (w : World F) : w.SameFrame w := ⟨rfl, rfl, rfl, rfl⟩

theorem SameFrame.trans (h : w.SameFrame w') (h' : w'.SameFrame w'') :
    w.SameFrame w'' :=
  ⟨h'.functions.trans h.functions, h'.classes.trans h.classes,
    h'.globals.trans h.globals, h'.host.trans h.host⟩

theorem Intact.refl (w : World F) : w.Intact w := ⟨rfl, [], by simp, rfl⟩

theorem Intact.trans (h : w.Intact w') (h' : w'.Intact w'') :
    w.Intact w'' := by
  obtain ⟨asked, hidle, hshared⟩ := h.shared
  obtain ⟨asked', hidle', hshared'⟩ := h'.shared
  refine ⟨h'.interpreter.trans h.interpreter, asked' ++ asked, ?_, ?_⟩
  · intro q hq
    exact (List.mem_append.mp hq).elim (hidle' q) (hidle q)
  · rw [hshared', hshared, List.append_assoc]

theorem SameFrame.hasType (h : w.SameFrame w') {className : String} :
    w'.interpreter.HasType className ↔ w.interpreter.HasType className := by
  rw [Interpreter.HasType, h.classes, Interpreter.HasType]

/-- The world in which a service was asked something more. -/
def asking (w : World F) (q : Interaction) : World F :=
  { w with shared.history := q :: w.shared.history }

theorem Intact.asking {q : Interaction} (h : IsIdle q) :
    w.Intact (w.asking q) :=
  ⟨rfl, [q], by simpa using h, rfl⟩

theorem Intact.sameFrame (h : w.Intact w') : w.SameFrame w' := by
  constructor <;> rw [h.interpreter]

end World

namespace Action

variable {F α β : Type}

/-! ## Relations that an action keeps -/

/-- The world after the action, whether it fails or not, is related to the
world before. -/
def Preserves (R : World F → World F → Prop) (a : Action F α) : Prop :=
  ∀ w, R w (a.run.run w).2

namespace Preserves

variable {R R' : World F → World F → Prop}

theorem after {a : Action F α} (ha : Preserves R a) {w w' : World F}
    {result : Except Abort α} (hrun : a.run.run w = (result, w')) :
    R w w' := by
  have h := ha w
  rw [hrun] at h
  exact h

theorem mono {a : Action F α} (ha : Preserves R a)
    (h : ∀ w w', R w w' → R' w w') : Preserves R' a :=
  fun w => h _ _ (ha w)

theorem bind (trans : ∀ w₁ w₂ w₃, R w₁ w₂ → R w₂ w₃ → R w₁ w₃)
    {a : Action F α} {f : α → Action F β} (ha : Preserves R a)
    (hf : ∀ x, Preserves R (f x)) : Preserves R (a >>= f) := by
  intro w
  have hfirst := ha w
  rw [run_bind]
  rcases hrun : a.run.run w with ⟨e | x, w'⟩
  · rw [hrun] at hfirst
    exact hfirst
  · rw [hrun] at hfirst
    exact trans _ _ _ hfirst (hf x w')

end Preserves

/-! ## Actions that change nothing -/

/-- A service is not reached, or fails, or answers. -/
theorem serve_cases (call : ServiceCall) (w : World F) :
    (∃ e, (serve call).run.run w = (.error e, w))
      ∨ (∃ e, (serve call).run.run w = (.error e, w.asking ⟨call, true⟩))
      ∨ ∃ reply, (serve call).run.run w = (.ok reply, w.asking ⟨call, false⟩)
      := by
  rw [run_serve]
  cases w.interpreter.host with
  | none => exact .inl ⟨_, rfl⟩
  | some context =>
    dsimp only
    cases context.services.provides call.kind with
    | false => exact .inl ⟨_, rfl⟩
    | true =>
      rw [if_pos rfl]
      cases context.services.answer w.shared.history call with
      | error f => exact .inr (.inl ⟨_, rfl⟩)
      | ok reply => exact .inr (.inr ⟨_, rfl⟩)

/-- The action changes nothing, with or without a failure. -/
abbrev Quiet (a : Action F α) : Prop := Preserves World.Intact a

namespace Quiet

theorem of_same {a : Action F α} (h : ∀ w, (a.run.run w).2 = w) :
    Quiet a := by
  intro w
  rw [h w]
  exact .refl w

@[grind .] theorem pure (x : α) : Quiet (Pure.pure x : Action F α) :=
  of_same fun _ => rfl

@[grind .] theorem raise (e : ScriptError) :
    Quiet (Action.raise e : Action F α) := of_same fun _ => rfl

@[grind .] theorem complain (c : Complaint) :
    Quiet (Action.complain c : Action F α) := of_same fun _ => rfl

@[grind .] theorem fail (f : HostFault) :
    Quiet (Action.fail f : Action F α) := of_same fun _ => rfl

@[grind .] theorem panic : Quiet (Action.panic : Action F α) := of_same fun _ => rfl

@[grind .] theorem interpreter :
    Quiet (Action.interpreter : Action F (Interpreter F)) := of_same fun _ => rfl

@[grind .] theorem shared : Quiet (Action.shared : Action F Shared) :=
  of_same fun _ => rfl

@[grind ←] theorem bind {a : Action F α} {f : α → Action F β}
    (ha : Quiet a) (hf : ∀ x, Quiet (f x)) : Quiet (a >>= f) :=
  Preserves.bind (fun _ _ _ h h' => h.trans h') ha hf

@[grind ←] theorem mapM {f : α → Action F β} (hf : ∀ x, Quiet (f x))
    (row : List α) : Quiet (row.mapM f) := by
  induction row with
  | nil => exact .pure _
  | cons x rest ih =>
    rw [List.mapM_cons]
    exact (hf x).bind fun _ => ih.bind fun _ => .pure _

@[grind .] theorem ofExcept (r : Except ScriptError α) :
    Quiet (Action.ofExcept r : Action F α) := by
  cases r with
  | ok x => exact pure x
  | error e => exact raise e

@[grind .] theorem ofOption (c : Complaint) (r : Option α) :
    Quiet (Action.ofOption c r : Action F α) := by
  cases r with
  | some x => exact pure x
  | none => exact complain c

@[grind .] theorem argument (read : Argument.Reader α) (args : List Value)
    (n : Nat) : Quiet (Action.argument read args n : Action F α) :=
  ofExcept _

@[grind .] theorem host : Quiet (Action.host : Action F HostContext) := by
  refine interpreter.bind fun i => ?_
  split
  · exact pure _
  · exact complain _

@[grind .] theorem exchange : Quiet (Action.exchange : Action F Exchange) := by
  refine interpreter.bind fun i => ?_
  split
  · exact pure _
  · exact fail _

@[grind .] theorem toJson (v : Value) :
    Quiet (Action.toJson v : Action F Json) := by
  refine interpreter.bind fun i => ?_
  split
  · exact pure _
  · exact raise _

@[grind .] theorem handleOf (object : TableId) :
    Quiet (Action.handleOf object : Action F HandleId) := by
  refine interpreter.bind fun i => ?_
  split
  · exact pure _
  · exact raise _

@[grind .] theorem stateOf (kind : ObjectState → Option α)
    (object : TableId) : Quiet (Action.stateOf kind object : Action F α) := by
  refine (handleOf object).bind fun id => interpreter.bind fun i => ?_
  split
  · exact pure _
  · exact raise _

/-- What a service draws is of no consequence by itself. -/
theorem serve {call : ServiceCall} (idle : call.kind = .template) :
    Quiet (Action.serve call : Action F call.Reply) := by
  intro w
  obtain ⟨e, hrun⟩ | ⟨e, hrun⟩ | ⟨reply, hrun⟩ := serve_cases call w
  · rw [hrun]
    exact .refl w
  · rw [hrun]
    exact .asking (.inl rfl)
  · rw [hrun]
    exact .asking (.inr idle)

end Quiet

/-! ## Actions that cannot fail -/

/-- The action does not fail, and it keeps the frame. -/
def Sure (a : Action F α) : Prop :=
  ∀ w, ∃ x w', a.run.run w = (.ok x, w') ∧ w.SameFrame w'

namespace Sure

@[grind .] theorem pure (x : α) : Sure (Pure.pure x : Action F α) :=
  fun w => ⟨x, w, rfl, .refl w⟩

@[grind .] theorem modifyShared (f : Shared → Shared) :
    Sure (Action.modifyShared f : Action F Unit) :=
  fun w => ⟨(), { w with shared := f w.shared }, rfl, rfl, rfl, rfl, rfl⟩

/-- Changes of the interpreter beside its frame. -/
theorem modifyInterpreter {f : Interpreter F → Interpreter F}
    (functions : ∀ i, (f i).functions = i.functions)
    (classes : ∀ i, (f i).classes = i.classes)
    (globals : ∀ i, (f i).globals = i.globals)
    (host : ∀ i, (f i).host = i.host) :
    Sure (Action.modifyInterpreter f) :=
  fun w => ⟨(), { w with interpreter := f w.interpreter }, rfl,
    functions _, classes _, globals _, host _⟩

@[grind ←] theorem bind {a : Action F α} {f : α → Action F β}
    (ha : Sure a) (hf : ∀ x, Sure (f x)) : Sure (a >>= f) := by
  intro w
  obtain ⟨x, w', hrun, hframe⟩ := ha w
  obtain ⟨y, w'', hrun', hframe'⟩ := hf x w'
  exact ⟨y, w'', by rw [run_bind, hrun]; exact hrun', hframe.trans hframe'⟩

@[grind .] theorem shared : Sure (Action.shared : Action F Shared) :=
  fun w => ⟨w.shared, w, rfl, .refl w⟩

@[grind .] theorem ofJson (j : Json) :
    Sure (Action.ofJson j : Action F Value) :=
  fun w => ⟨_, _, run_ofJson j w, rfl, rfl, rfl, rfl⟩

@[grind .] theorem ofJson? (j : Option Json) :
    Sure (Action.ofJson? j : Action F Value) := by
  cases j with
  | some j => exact ofJson j
  | none => exact pure _

end Sure

/-! ## Careful actions -/

/-- The action keeps the frame of a world, and changes nothing in it if it
fails there. -/
def CarefulAt (w : World F) (a : Action F α) : Prop :=
  match a.run.run w with
  | (.ok _, w') => w.SameFrame w'
  | (.error _, w') => w.Intact w'

/-- The action is careful in every world. -/
def Careful (a : Action F α) : Prop := ∀ w, CarefulAt w a

theorem CarefulAt.sameFrame {a : Action F α} {w : World F}
    (h : CarefulAt w a) : w.SameFrame (a.run.run w).2 := by
  unfold CarefulAt at h
  rcases hrun : a.run.run w with ⟨e | x, w'⟩
  · rw [hrun] at h
    exact h.sameFrame
  · rw [hrun] at h
    exact h

/-- The action keeps the frame, with or without a failure. -/
abbrev KeepsFrame (a : Action F α) : Prop := Preserves World.SameFrame a

theorem KeepsFrame.bind {a : Action F α} {f : α → Action F β}
    (ha : KeepsFrame a) (hf : ∀ x, KeepsFrame (f x)) : KeepsFrame (a >>= f) :=
  Preserves.bind (fun _ _ _ h h' => h.trans h') ha hf

theorem Quiet.keepsFrame {a : Action F α} (h : Quiet a) : KeepsFrame a :=
  h.mono fun _ _ => World.Intact.sameFrame

theorem Careful.keepsFrame {a : Action F α} (h : Careful a) :
    KeepsFrame a := fun w => (h w).sameFrame

/-- **An action that is careful leaves no trace when it fails.** -/
theorem CarefulAt.intact {a : Action F α} {w w' : World F} {e : Abort}
    (h : CarefulAt w a) (hfails : a.run.run w = (.error e, w')) :
    w.Intact w' := by
  unfold CarefulAt at h
  rw [hfails] at h
  exact h

namespace Careful

theorem of_quiet {a : Action F α} (h : Quiet a) : Careful a := by
  intro w
  have hintact := h w
  unfold CarefulAt
  rcases hrun : a.run.run w with ⟨e | x, w'⟩
  · rw [hrun] at hintact
    exact hintact
  · rw [hrun] at hintact
    exact hintact.sameFrame

theorem of_sure {a : Action F α} (h : Sure a) : Careful a := by
  intro w
  obtain ⟨x, w', hrun, hframe⟩ := h w
  unfold CarefulAt
  rw [hrun]
  exact hframe

end Careful

namespace CarefulAt

/-- Quiet parts come before the deed. -/
theorem after_quiet {a : Action F α} {f : α → Action F β} {w : World F}
    (ha : Quiet a)
    (hf : ∀ x w', w'.interpreter = w.interpreter → CarefulAt w' (f x)) :
    CarefulAt w (a >>= f) := by
  have hintact := ha w
  unfold CarefulAt
  rw [run_bind]
  rcases hrun : a.run.run w with ⟨e | x, w'⟩
  · rw [hrun] at hintact
    exact hintact
  · rw [hrun] at hintact
    have hrest := hf x w' hintact.interpreter
    unfold CarefulAt at hrest
    dsimp only
    rcases hrun' : (f x).run.run w' with ⟨e | y, w''⟩
    · rw [hrun'] at hrest
      exact hintact.trans hrest
    · rw [hrun'] at hrest
      exact hintact.sameFrame.trans hrest

/-- What stands behind the deed does not fail after it. -/
theorem followed {a : Action F α} {f : α → Action F β} {w : World F}
    (ha : CarefulAt w a)
    (hf : ∀ x w', a.run.run w = (.ok x, w') →
      ∃ y w'', (f x).run.run w' = (.ok y, w'') ∧ w'.SameFrame w'') :
    CarefulAt w (a >>= f) := by
  unfold CarefulAt at *
  rw [run_bind]
  rcases hrun : a.run.run w with ⟨e | x, w'⟩
  · rw [hrun] at ha
    exact ha
  · rw [hrun] at ha
    obtain ⟨y, w'', hrun', hframe⟩ := hf x w' hrun
    dsimp only
    rw [hrun']
    exact ha.trans hframe

end CarefulAt

namespace Careful

@[grind ←] theorem after_quiet {a : Action F α} {f : α → Action F β}
    (ha : Quiet a) (hf : ∀ x, Careful (f x)) : Careful (a >>= f) :=
  fun _ => .after_quiet ha fun x w' _ => hf x w'

/-- Behind the deed stands what cannot fail. -/
@[grind ←] theorem before_sure {a : Action F α} {f : α → Action F β}
    (ha : Careful a) (hf : ∀ x, Sure (f x)) : Careful (a >>= f) :=
  fun w => (ha w).followed fun x w' _ => hf x w'

/-! ## The single parts -/

@[grind .] theorem pure (x : α) : Careful (Pure.pure x : Action F α) :=
  of_quiet (.pure x)

@[grind .] theorem raise (e : ScriptError) :
    Careful (Action.raise e : Action F α) := of_quiet (.raise e)

@[grind .] theorem complain (c : Complaint) :
    Careful (Action.complain c : Action F α) := of_quiet (.complain c)

@[grind .] theorem fail (f : HostFault) :
    Careful (Action.fail f : Action F α) := of_quiet (.fail f)

@[grind .] theorem panic : Careful (Action.panic : Action F α) :=
  of_quiet .panic

@[grind .] theorem ofJson (j : Json) :
    Careful (Action.ofJson j : Action F Value) := of_sure (.ofJson j)

@[grind .] theorem ofJson? (j : Option Json) :
    Careful (Action.ofJson? j : Action F Value) := of_sure (.ofJson? j)

@[grind .] theorem modifyExchange (f : Exchange → Exchange) :
    Careful (Action.modifyExchange f : Action F Unit) :=
  after_quiet .exchange fun _ => of_sure (.modifyInterpreter (fun _ => rfl)
    (fun _ => rfl) (fun _ => rfl) fun _ => rfl)

@[grind .] theorem newObject (className : String) (state : ObjectState) :
    Careful (Action.newObject className state : Action F Value) := by
  refine after_quiet .interpreter fun i => ?_
  split
  · exact of_quiet (.raise _)
  · exact of_sure (Sure.bind (.modifyInterpreter (fun _ => rfl)
      (fun _ => rfl) (fun _ => rfl) fun _ => rfl) fun _ => .pure _)

/-- Where the type of an object is there, the object can be made. -/
theorem newObject_sure {className : String} (state : ObjectState)
    {w : World F} (h : w.interpreter.HasType className) :
    ∃ v w', (Action.newObject className state).run.run w = (.ok v, w')
      ∧ w.SameFrame w' := by
  have hsome : (w.interpreter.classes.get? className).isNone = false := by
    rw [Interpreter.HasType, Option.isSome_iff_exists] at h
    obtain ⟨id, hid⟩ := h
    rw [hid]
    rfl
  rw [Action.newObject, run_bind, run_interpreter]
  dsimp only
  rw [hsome, if_neg (by decide)]
  exact ⟨_, _, rfl, rfl, rfl, rfl, rfl⟩

@[grind .] theorem setState (object : TableId) (state : ObjectState) :
    Careful (Action.setState object state : Action F Unit) :=
  after_quiet (.handleOf object) fun _ => of_sure (.modifyInterpreter
    (fun _ => rfl) (fun _ => rfl) (fun _ => rfl) fun _ => rfl)

/-- A service that fails is remembered to have failed. -/
@[grind .] theorem serve (call : ServiceCall) :
    Careful (Action.serve call : Action F call.Reply) := by
  intro w
  unfold CarefulAt
  obtain ⟨e, hrun⟩ | ⟨e, hrun⟩ | ⟨reply, hrun⟩ := serve_cases call w
  · rw [hrun]
    exact .refl w
  · rw [hrun]
    exact .asking (.inl rfl)
  · rw [hrun]
    exact ⟨rfl, rfl, rfl, rfl⟩

/-- The scheduler of the scripts adds an event or fails. -/
@[grind .] theorem schedule (interval : Nat) (script : String) :
    Careful (Action.schedule interval script : Action F EventId) := by
  refine after_quiet .host fun context => ?_
  split
  · exact serve _
  · refine after_quiet .shared fun s => ?_
    split
    · exact of_sure ((Sure.modifyShared _).bind fun _ => .pure _)
    · exact of_quiet (.fail _)

@[grind .] theorem cancel (event : EventId) :
    Careful (Action.cancel event : Action F Bool) := by
  refine after_quiet .host fun context => ?_
  split
  · exact serve _
  · refine after_quiet .shared fun s => ?_
    split
    · exact of_sure ((Sure.modifyShared _).bind fun _ => .pure _)
    · exact of_quiet (.fail _)

end Careful

end Action

/-! ## What is asked of a service -/

variable {F α : Type}

/-- The service is there to be asked. -/
def World.Offers (w : World F) (kind : ServiceKind) : Prop :=
  ∃ context, w.interpreter.host = some context
    ∧ context.services.provides kind = true

/-- The question was asked once, and nothing else was done to what all
interpreters share; an answer that is a failure was raised as an error.
Without the service there was an error at once, and nothing was done. -/
structure World.Asks (w : World F) (call : ServiceCall)
    (outcome : Except Abort α × World F) : Prop where
  asked : w.Offers call.kind → ∃ failed,
    outcome.2.shared
        = { w.shared with history := ⟨call, failed⟩ :: w.shared.history }
      ∧ (failed = true → ∃ e, outcome.1 = .error (.raised e))
  unasked : ¬ w.Offers call.kind → ∃ e, outcome = (.error (.raised e), w)

/-- Where the service is there, it was asked one thing only. -/
theorem World.Asks.unique {w : World F} {call call' : ServiceCall}
    {outcome : Except Abort α × World F} (h : w.Asks call outcome)
    (h' : w.Asks call' outcome) (offers : w.Offers call.kind)
    (offers' : w.Offers call'.kind) : call = call' := by
  obtain ⟨failed, hshared, -⟩ := h.asked offers
  obtain ⟨failed', hshared', -⟩ := h'.asked offers'
  have hhistory := congrArg Shared.history (hshared.symm.trans hshared')
  exact congrArg Interaction.call (List.cons.inj hhistory).1

/-- An action asks just this if it asks it first, and leaves what interpreters
share alone from then on. -/
theorem Action.asks_serve (call : ServiceCall)
    {f : call.Reply → Action F α}
    (kept : ∀ reply, Preserves (fun w w' => w'.shared = w.shared) (f reply))
    (w : World F) : w.Asks call ((serve call >>= f).run.run w) := by
  rw [run_bind, run_serve]
  cases hhost : w.interpreter.host with
  | none =>
    exact ⟨fun ⟨_, hoffers, _⟩ => (nomatch hhost.symm.trans hoffers),
      fun _ => ⟨_, rfl⟩⟩
  | some context =>
    dsimp only
    cases hthere : context.services.provides call.kind with
    | false =>
      refine ⟨fun ⟨_, hoffers, hprovides⟩ => ?_, fun _ => ⟨_, rfl⟩⟩
      obtain rfl := Option.some.inj (hhost.symm.trans hoffers)
      exact absurd (hthere.symm.trans hprovides) Bool.false_ne_true
    | true =>
      refine ⟨fun _ => ?_, fun hnone => absurd ⟨context, hhost, hthere⟩ hnone⟩
      rw [if_pos rfl]
      cases context.services.answer w.shared.history call with
      | error e => exact ⟨true, rfl, fun _ => ⟨_, rfl⟩⟩
      | ok reply => exact ⟨false, kept reply _, nofun⟩

/-- A new object is nothing that interpreters share. -/
theorem Action.newObject_shared (className : String) (state : ObjectState) :
    Preserves (fun w w' => w'.shared = w.shared)
      (Action.newObject className state : Action F Value) := by
  intro w
  rw [Action.newObject, run_bind, run_interpreter]
  dsimp only
  split <;> rfl

end ScriptHost
