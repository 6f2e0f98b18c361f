/-
ScriptHost.Proofs.App.Failure — calls that fail.

On a host that offers the whole catalog, a call of any function that raises
an error or panics leaves everything as it was
(`Blueprint.intact_of_failure`): the request, the response and the session
of the run, the tables and the state of all objects, the cache, the storage,
the environment and the scheduled events. Two functions make an object at
their end, when their deed is done; that this cannot fail is known from the
object types that were bound, which no script can take away.
-/
import ScriptHost.App.Application
import ScriptHost.Proofs.Capability.Careful
import ScriptHost.Proofs.Engine.Configured
import ScriptHost.Proofs.Engine.Reachable

namespace ScriptHost

open ScriptHost.Action

/-- A call is careful where its function is. -/
theorem Capability.invoke_carefulAt (c : Callable Capability)
    (args : List Value) {w : World Capability}
    (event : w.interpreter.HasType eventType)
    (player : w.interpreter.HasType playerType) :
    CarefulAt w (Action.invoke c args) := by
  cases c with
  | member name f =>
    refine .after_quiet .interpreter fun i w' hsame => ?_
    rw [← hsame] at event player
    exact f.carefulAt _ event player
  | plain f => exact f.carefulAt args event player
  | reserved name => exact Careful.complain _ w
  | inert => exact Careful.pure _ w

namespace Blueprint

variable {b : Blueprint Capability} {i : ScriptInterpreter}
  {w w' : World Capability}

/-- The object types of the catalog are there in every world that a
configured instance can come into. -/
theorem hasType_of_catalog (registry : b.registry = Capability.catalog)
    (h : b.configure = .ok i) (hw : Reachable i w) {m : Module Capability}
    (hm : m ∈ Capability.modules) (exposure : m.exposure = .objectType) :
    w.interpreter.HasType m.name := by
  rw [Interpreter.HasType, (hw.continues Capability.keepsFrame).classes]
  exact b.hasType_configure h (by rw [registry]; exact hm) exposure

/-- **A call that fails changes nothing**, whatever the function, its
arguments and the world that an instance with the whole catalog has come
into. Only the services remember what they were asked: nothing that they
have done, but for pages that were drawn in vain. -/
theorem intact_of_failure (registry : b.registry = Capability.catalog)
    (h : b.configure = .ok i) (hw : Reachable i w) (c : Callable Capability)
    (args : List Value) {e : Abort}
    (fails : (Action.invoke c args).run.run w = (.error e, w')) :
    w.Intact w' := by
  have event := hasType_of_catalog registry h hw
    (m := Capability.objects eventType .event EventFunction.named)
    (by simp [Capability.modules]) rfl
  have player := hasType_of_catalog registry h hw
    (m := Capability.objects playerType .player PlayerFunction.named)
    (by simp [Capability.modules]) rfl
  exact (Capability.invoke_carefulAt c args event player).intact fails

/-- A host with the whole catalog and no services. -/
def catalogHost : Blueprint Capability := App.blueprint {} ""

/-- A script that makes an image, replaces its handle, and calls it. -/
def unhandled : Script :=
  [{ deed := .call (.member "img" "new") [.scalar (.int 2), .scalar (.int 2)] },
    { deed := .write (some 0) [.scalar (.ofText Action.handleField)]
        (.scalar (.int 1)) },
    { deed := .call (.ofObject (.result 0 []) "setBackground")
        [.scalar (.ofText "sky.png")] }]

theorem intact_unhandled :
    ∃ i, catalogHost.configure = .ok i
      ∧ (unhandled.calls ⟨i, {}⟩).map Call.succeeds = [true, false]
      ∧ ∀ c ∈ unhandled.calls ⟨i, {}⟩, c.succeeds = false →
        c.world.Intact c.ended.2 := by
  have hends : (catalogHost.configure.toOption.map fun i =>
      (unhandled.calls ⟨i, {}⟩).map Call.succeeds) = some [true, false] := by
    decide +kernel
  obtain ⟨i, h, hcalls⟩ := catalogHost.configure_of_map hends
  refine ⟨i, h, hcalls, fun c hc hfails => ?_⟩
  have hw := ((Reachable.start (i := i) {}).runFrom unhandled #[]).1 c hc
  unfold Call.succeeds at hfails
  rcases hended : c.ended with ⟨e | values, w'⟩
  · exact intact_of_failure rfl h hw c.function c.args hended
  · rw [hended] at hfails
    cases hfails

end Blueprint

end ScriptHost
