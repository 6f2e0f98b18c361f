/-
ScriptHost.Proofs.Script.Action — what an action returns, and the world it
leaves.

`run_bind` takes an action apart, and the other equations say what the
smallest actions do.
-/
import ScriptHost.Proofs.Text.Utf8
import ScriptHost.Script.Action

namespace ScriptHost

/-- One part after another: the second sees the state that the first has
left, and is not done if the first was cut short. -/
theorem run_bind {ε σ α β : Type} (a : ExceptT ε (StateM σ) α)
    (f : α → ExceptT ε (StateM σ) β) (s : σ) :
    (a >>= f).run.run s = match a.run.run s with
      | (.ok x, s') => (f x).run.run s'
      | (.error e, s') => (.error e, s') := by
  simp only [ExceptT.run_bind, StateT.run_bind]
  rcases a.run.run s with ⟨x | x, s'⟩ <;> rfl

/-- A text is taken as it was passed. -/
theorem Argument.text_ofText (s : String) :
    Argument.text (.ofText s) = .ok s := by
  simp [Argument.text, Argument.textAs, Argument.bytes?, Argument.utf8,
    Value.ofText]

namespace Action

variable {F α β : Type}

/-! ## State -/

theorem run_interpreter (w : World F) :
    interpreter.run.run w = (.ok w.interpreter, w) := rfl

theorem run_shared (w : World F) :
    shared.run.run w = (.ok w.shared, w) := rfl

theorem run_modifyInterpreter (f : Interpreter F → Interpreter F)
    (w : World F) : (modifyInterpreter f).run.run w
      = (.ok (), { w with interpreter := f w.interpreter }) := rfl

theorem run_exchange (w : World F) :
    exchange.run.run w
      = (match w.interpreter.exchange with
        | some ex => .ok ex
        | none => .error (.raised (.fault .noActiveRequest)), w) := by
  rw [exchange, run_bind, run_interpreter]
  dsimp only
  cases w.interpreter.exchange <;> rfl

theorem run_host (w : World F) :
    host.run.run w
      = (match w.interpreter.host with
        | some context => .ok context
        | none => .error (.raised (.complaint .noHost)), w) := by
  rw [host, run_bind, run_interpreter]
  dsimp only
  cases w.interpreter.host <;> rfl

theorem run_argument (read : Argument.Reader α) (args : List Value) (n : Nat)
    (w : World F) :
    (argument read args n).run.run w
      = (match read (Argument.nth args n) with
        | .ok x => .ok x
        | .error e => .error (.raised e), w) := by
  unfold argument
  cases read (Argument.nth args n) <;> rfl

theorem run_argument_text (text : String) (w : World F) :
    (argument Argument.text [.ofText text] 0).run.run w = (.ok text, w) := by
  rw [run_argument]
  exact congrArg (·, w) (by rw [Argument.nth, List.getD_cons_zero,
    Argument.text_ofText])

theorem run_modifyExchange (f : Exchange → Exchange) (w : World F) :
    (modifyExchange f).run.run w
      = match w.interpreter.exchange with
        | some ex => (.ok (), { w with interpreter.exchange := some (f ex) })
        | none => (.error (.raised (.fault .noActiveRequest)), w) := by
  rw [modifyExchange, run_bind, run_exchange]
  cases w.interpreter.exchange <;> rfl

/-! ## Data -/

theorem run_ofJson (j : Json) (w : World F) :
    (ofJson j).run.run w
      = (.ok (w.interpreter.heap.ofJson j).1,
        { w with interpreter.heap := (w.interpreter.heap.ofJson j).2 }) :=
  rfl

theorem run_toJson (v : Value) (w : World F) :
    (toJson v).run.run w
      = (match w.interpreter.heap.toJson v with
        | .ok j => .ok j
        | .error e => .error (.raised (.data e)), w) := by
  rw [toJson, run_bind, run_interpreter]
  dsimp only
  cases w.interpreter.heap.toJson v <;> rfl

/-! ## Services -/

/-- A service is asked if it is there, and the question is remembered. -/
theorem run_serve (call : ServiceCall) (w : World F) :
    (serve call).run.run w
      = match w.interpreter.host with
        | none => (.error (.raised (.complaint .noHost)), w)
        | some context =>
          if context.services.provides call.kind then
            match context.services.answer w.shared.history call with
            | .ok reply => (.ok reply,
              { w with shared.history := ⟨call, false⟩ :: w.shared.history })
            | .error f => (.error (.raised (.fault f)),
              { w with shared.history := ⟨call, true⟩ :: w.shared.history })
          else (.error (.raised (.fault (.unavailable call.kind))), w) := by
  rw [serve, run_bind, run_host]
  cases w.interpreter.host with
  | none => rfl
  | some context =>
    dsimp only
    cases context.services.provides call.kind with
    | false => rfl
    | true =>
      rw [Bool.not_true, if_neg (by decide), if_pos rfl, run_bind]
      show (match context.services.answer w.shared.history call with
        | .ok reply => (do
          modifyShared fun s =>
            { s with history := ⟨call, false⟩ :: w.shared.history }
          pure reply : Action F call.Reply)
        | .error f => (do
          modifyShared fun s =>
            { s with history := ⟨call, true⟩ :: w.shared.history }
          fail f)).run.run w = _
      cases context.services.answer w.shared.history call <;> rfl

end Action

end ScriptHost
