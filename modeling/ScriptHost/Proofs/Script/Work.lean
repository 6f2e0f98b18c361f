/-
ScriptHost.Proofs.Script.Work — what a script does by itself.

Between two calls of functions a script makes tables and functions of its
own and writes into tables. `World.Worked` says what such work leaves alone:
the functions that are there, the object types, the state of objects, the
host, the request of the run, and all that interpreters share. Finding the
value of an expression is work (`Step.eval_works`), and so is everything in
a step but its call.
-/
import ScriptHost.Proofs.Script.Careful
import ScriptHost.Proofs.Script.Interpreter
import ScriptHost.Script.Step

namespace ScriptHost

variable {F : Type}

/-- Only tables are others, and there may be new functions. -/
structure World.Worked (w w' : World F) : Prop where
  functions : w.interpreter.functions.size ≤ w'.interpreter.functions.size
  callable : ∀ id, id < w.interpreter.functions.size →
    w'.interpreter.callable id = w.interpreter.callable id
  handles : w'.interpreter.handles = w.interpreter.handles
  globals : w'.interpreter.globals = w.interpreter.globals
  classes : w'.interpreter.classes = w.interpreter.classes
  host : w'.interpreter.host = w.interpreter.host
  exchange : w'.interpreter.exchange = w.interpreter.exchange
  shared : w'.shared = w.shared

namespace World.Worked

variable {w w' w'' : World F}

theorem of_heap (h : ∃ heap, w' = { w with interpreter.heap := heap }) :
    w.Worked w' := by
  obtain ⟨heap, rfl⟩ := h
  exact ⟨Nat.le_refl _, fun _ _ => rfl, rfl, rfl, rfl, rfl, rfl, rfl⟩

theorem refl (w : World F) : w.Worked w := of_heap ⟨_, rfl⟩

theorem trans (h : w.Worked w') (h' : w'.Worked w'') : w.Worked w'' where
  functions := Nat.le_trans h.functions h'.functions
  callable id hid := by
    rw [h'.callable id (Nat.lt_of_lt_of_le hid h.functions),
      h.callable id hid]
  handles := h'.handles.trans h.handles
  globals := h'.globals.trans h.globals
  classes := h'.classes.trans h.classes
  host := h'.host.trans h.host
  exchange := h'.exchange.trans h.exchange
  shared := h'.shared.trans h.shared

end World.Worked

namespace Action

variable {α β : Type}

/-- The action does no more than a script does by itself. -/
abbrev Works (a : Action F α) : Prop := Preserves World.Worked a

namespace Works

theorem pure (x : α) : Works (Pure.pure x : Action F α) :=
  fun w => .refl w

theorem interpreter : Works (Action.interpreter : Action F (Interpreter F)) :=
  fun w => .refl w

theorem bind {a : Action F α} {f : α → Action F β} (ha : Works a)
    (hf : ∀ x, Works (f x)) : Works (a >>= f) :=
  Preserves.bind (fun _ _ _ h h' => h.trans h') ha hf

end Works

end Action

open ScriptHost.Action

namespace Step

/-! ## Expressions -/

theorem newTable_works (t : Table) :
    Works (eval.newTable t : Action F Value) :=
  fun _ => .of_heap ⟨_, rfl⟩

theorem newFunction_works :
    Works (do
      let (v, i) := (← Action.interpreter).addFunction .inert
      Action.modifyInterpreter fun _ => i
      pure v : Action F Value) := by
  intro w
  have hgrows := Interpreter.grows_addFunction w.interpreter .inert
  exact ⟨hgrows.functions, hgrows.callable, rfl, rfl, rfl, rfl, rfl, rfl⟩

mutual
theorem eval_works (results : Results) :
    ∀ e, Works (eval results e : Action F Value)
  | .scalar v => by
    unfold eval
    exact .pure _
  | .pairs entries => by
    unfold eval
    exact (evalPairs_works results entries).bind fun _ => newTable_works _
  | .items mark items => by
    unfold eval
    exact (evalItems_works results items).bind fun _ => newTable_works _
  | .function => by
    unfold eval
    exact newFunction_works
  | .result step path => by
    unfold eval
    exact (evalItems_works results path).bind fun _ =>
      Works.interpreter.bind fun _ => .pure _
  | .global path => by
    unfold eval
    exact (evalItems_works results path).bind fun _ =>
      Works.interpreter.bind fun _ => .pure _

theorem evalPairs_works (results : Results) :
    ∀ es, Works (evalPairs results es : Action F (List (Value × Value)))
  | [] => by
    unfold evalPairs
    exact .pure _
  | (k, e) :: rest => by
    unfold evalPairs
    exact (eval_works results k).bind fun _ =>
      (eval_works results e).bind fun _ =>
        (evalPairs_works results rest).bind fun _ => .pure _

theorem evalItems_works (results : Results) :
    ∀ es, Works (evalItems results es : Action F (List Value))
  | [] => by
    unfold evalItems
    exact .pure _
  | e :: rest => by
    unfold evalItems
    exact (eval_works results e).bind fun _ =>
      (evalItems_works results rest).bind fun _ => .pure _
end

/-! ## Steps, apart from their calls -/

theorem resolve_works (results : Results) (callee : Callee) :
    Works (resolve results callee :
      Action F (Option (Callable F) × List Value)) := by
  cases callee with
  | ofObject object name =>
    exact (eval_works results object).bind fun _ =>
      Works.interpreter.bind fun _ => .pure _
  | global | member | method | ofClass =>
    exact Works.interpreter.bind fun _ => .pure _

/-- A write changes one table or none. -/
theorem writePath_cases (i : Interpreter F) (root : Value)
    (path : List Value) (v : Value) :
    ∃ heap, i.writePath root path v = { i with heap := heap } := by
  unfold Interpreter.writePath
  split
  · split
    · exact ⟨_, rfl⟩
    · exact ⟨_, rfl⟩
  · exact ⟨_, rfl⟩

theorem write_works (root : Interpreter F → Value) (path : List Value)
    (v : Value) :
    Works (Action.modifyInterpreter fun i => i.writePath (root i) path v) := by
  intro w
  obtain ⟨heap, hwrite⟩ :=
    writePath_cases w.interpreter (root w.interpreter) path v
  refine .of_heap ⟨heap, ?_⟩
  rw [run_modifyInterpreter, hwrite]

end Step

end ScriptHost
