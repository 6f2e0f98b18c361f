/-
ScriptHost.Proofs.Capability.SessionData — what the functions of `session`
return in a run.

Each function has one equation: what it returns, and the world after it, in
terms of the session of the run. No other part of the world matters, except
that the tables of data that is returned go into the heap.
-/
import ScriptHost.Proofs.Capability.Response

namespace ScriptHost

variable {F : Type}

/-! ## Data that may be missing -/

/-- The value of data, or nil, and the heap with its tables. -/
def Heap.ofJson? (h : Heap) : Option Json → Value × Heap
  | some j => h.ofJson j
  | none => (.nil, h)

/-- The world with the tables of data that may be missing. -/
def World.withData (w : World F) (j? : Option Json) : World F :=
  { w with interpreter.heap := (w.interpreter.heap.ofJson? j?).2 }

theorem Action.run_ofJson? (j? : Option Json) (w : World F) :
    (Action.ofJson? j?).run.run w
      = (.ok (w.interpreter.heap.ofJson? j?).1, w.withData j?) := by
  cases j? with
  | some j => exact run_ofJson j w
  | none => rfl

namespace World

variable (w : World F)

/-- The world with the session of its run changed. -/
def withSession (ex : Exchange) (s : Session) : World F :=
  { w with interpreter.exchange := some (ex.mapSession fun _ => s) }

/-- What a function of `session` would return. -/
def answerTo (f : SessionFunction) (args : List Value) :
    Except Abort (List Value) :=
  ((f.run args : Action F (List Value)).run.run w).1

end World

/-! ## The functions -/

namespace SessionFunction

open Argument (nth text)

variable {w : World F} {ex : Exchange} {args : List Value}
  {key message : String}

theorem run_change (hex : w.interpreter.exchange = some ex)
    (f : Session → Session) :
    (change f).run.run w = (.ok (), w.withSession ex (f ex.session)) := by
  rw [change, Action.run_modifyExchange, hex]
  rfl

theorem run_isLogged (hex : w.interpreter.exchange = some ex) :
    (run isLogged args).run.run w = (.ok [.bool ex.session.isLogged], w) := by
  rw [run, run_bind, run_session hex]
  rfl

theorem run_isAdmin (hex : w.interpreter.exchange = some ex) :
    (run isAdmin args).run.run w = (.ok [.bool ex.session.isAdmin], w) := by
  rw [run, run_bind, run_session hex]
  rfl

theorem run_getFlash (hex : w.interpreter.exchange = some ex)
    (hkey : text (nth args 0) = .ok key) :
    (run getFlash args).run.run w
      = (.ok [.ofText? (ex.session.flash.get? key)],
        w.withSession ex (ex.session.takeFlash key).2) := by
  rw [run, run_bind, Action.run_argument, hkey]
  dsimp only
  rw [run_bind, run_session hex]
  dsimp only
  rw [run_bind, run_change hex]
  rfl

theorem run_setFlash (hex : w.interpreter.exchange = some ex)
    (hkey : text (nth args 0) = .ok key)
    (hmessage : text (nth args 1) = .ok message) :
    (run setFlash args).run.run w
      = (.ok [], w.withSession ex (ex.session.setFlash key message)) := by
  rw [run, run_bind, Action.run_argument, hkey]
  dsimp only
  rw [run_bind, Action.run_argument, hmessage]
  dsimp only
  rw [run_bind, run_change hex]
  rfl

theorem run_get (hex : w.interpreter.exchange = some ex)
    (hkey : text (nth args 0) = .ok key) :
    (run get args).run.run w
      = (.ok [(w.interpreter.heap.ofJson? (ex.session.get? key)).1],
        w.withData (ex.session.get? key)) := by
  rw [run, run_bind, Action.run_argument, hkey]
  dsimp only
  rw [run_bind, run_session hex]
  dsimp only
  rw [run_bind, Action.run_ofJson?]
  rfl

theorem run_set {value : Json} (hex : w.interpreter.exchange = some ex)
    (hkey : text (nth args 0) = .ok key)
    (hvalue : w.interpreter.heap.toJson (nth args 1) = .ok value) :
    (run set args).run.run w
      = (.ok [], w.withSession ex (ex.session.set key value)) := by
  rw [run, run_bind, Action.run_argument, hkey]
  dsimp only
  rw [run_bind, Action.run_toJson, hvalue]
  dsimp only
  rw [run_bind, run_change hex]
  rfl

theorem run_destroy (hex : w.interpreter.exchange = some ex) :
    (run destroy args).run.run w
      = (.ok [], w.withSession ex ex.session.destroy) := by
  rw [run, run_bind, run_change hex]
  rfl

theorem run_loggedAccount (hex : w.interpreter.exchange = some ex) :
    (run loggedAccount args).run.run w
      = (.ok [(w.interpreter.heap.ofJson? ex.session.account?).1],
        w.withData ex.session.account?) := by
  rw [run, run_bind, run_session hex]
  dsimp only
  rw [run_bind, Action.run_ofJson?]
  rfl

/-! ## Rights -/

/-- Only who is logged in has all rights. -/
theorem isLogged_of_isAdmin (hex : w.interpreter.exchange = some ex)
    {args' : List Value} (h : w.answerTo isAdmin args = .ok [.bool true]) :
    w.answerTo isLogged args' = .ok [.bool true] := by
  rw [World.answerTo, run_isAdmin hex] at h
  rw [World.answerTo, run_isLogged hex]
  have hadmin : ex.session.isAdmin = true := by simpa using h
  simp only [Session.isAdmin, Bool.and_eq_true] at hadmin
  rw [hadmin.1]

/-- Only who is logged in has an account. -/
theorem isLogged_of_account (hex : w.interpreter.exchange = some ex)
    {args' : List Value} {v : Value}
    (h : w.answerTo loggedAccount args = .ok [v]) (there : v ≠ .nil) :
    w.answerTo isLogged args' = .ok [.bool true] := by
  rw [World.answerTo, run_loggedAccount hex] at h
  rw [World.answerTo, run_isLogged hex]
  cases hlogged : ex.session.isLogged with
  | true => rfl
  | false =>
    rw [Session.account?, hlogged] at h
    obtain rfl : Value.nil = v := by simpa [Heap.ofJson?] using h
    exact absurd rfl there

end SessionFunction

/-! ## The functions of other modules -/

theorem HttpFunction.part?_ne_session (f : HttpFunction) (args : List Value)
    (w : World F) (change : SessionChange) :
    f.part? args w ≠ some (.session change) := by
  cases f <;> simp [part?, Option.bind_eq_some_iff]

/-- Only functions of `session` change the session. -/
theorem Capability.session_of_part? {c : Capability} {args : List Value}
    {w : World F} {change : SessionChange}
    (h : c.part? args w = some (.session change)) :
    ∃ f, c = .session f ∧ f.part? args w = some (.session change) := by
  cases c with
  | session f => exact ⟨f, rfl, h⟩
  | http f => exact absurd h (f.part?_ne_session args w change)
  | _ => cases h

end ScriptHost
