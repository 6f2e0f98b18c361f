/-
ScriptHost.Proofs.App.Namespace — which arguments reach the functions of a
namespace.

A function of a namespace may be called with the namespace in front of its
arguments, and should be none the wiser. What it leaves out is the table
that the global of this name holds at the time of the call
(`stripNamespace_eq`), not the table that the function was bound into.
`Blueprint.namespace_received` says when these are the same: in a world that
an instance can come into, they are exactly while the global still holds
that table. Scripts may write another value there
(`Blueprint.received_after_overwriting`).
-/
import ScriptHost.App.Application
import ScriptHost.Proofs.Capability.Careful
import ScriptHost.Proofs.Engine.Configured
import ScriptHost.Proofs.Engine.Reachable

namespace ScriptHost

/-- Arguments without the first one, where it is the table. -/
def dropTable (id : TableId) : List Value → List Value
  | .table id' :: rest => if id' = id then rest else .table id' :: rest
  | args => args

theorem dropTable_self (id : TableId) (args : List Value) :
    dropTable id (.table id :: args) = args := if_pos rfl

theorem dropTable_other {id : TableId} {args : List Value}
    (h : args.head? ≠ some (.table id)) : dropTable id args = args := by
  match args with
  | .table id' :: rest =>
    have hne : id' ≠ id := fun heq => h (by rw [heq]; rfl)
    exact if_neg hne
  | [] | .nil :: _ | .bool _ :: _ | .int _ :: _ | .float _ :: _ | .str _ :: _
  | .func _ :: _ | .handle _ :: _ | .null :: _ => rfl

namespace Interpreter

variable {F : Type} {i : Interpreter F} {name : String} {id : TableId}

/-- **What is left out is what the global holds now.** -/
theorem stripNamespace_eq (h : i.global name = .table id)
    (args : List Value) : i.stripNamespace name args = dropTable id args := by
  match args with
  | .table id' :: rest =>
    show (if i.global name = .table id' then rest else .table id' :: rest)
      = if id' = id then rest else .table id' :: rest
    rw [h]
    by_cases heq : id' = id
    · rw [if_pos (congrArg Value.table heq.symm), if_pos heq]
    · rw [if_neg fun htable => heq (Value.table.inj htable).symm, if_neg heq]
  | [] | .nil :: _ | .bool _ :: _ | .int _ :: _ | .float _ :: _ | .str _ :: _
  | .func _ :: _ | .handle _ :: _ | .null :: _ => rfl

/-- Where it leaves out the one table and nothing else, the global holds
it. -/
theorem stripNamespace_iff :
    (∀ args, i.stripNamespace name args = dropTable id args)
      ↔ i.global name = .table id := by
  constructor
  · intro h
    by_contra hnot
    have halone := h [.table id]
    rw [dropTable_self] at halone
    have hkept : i.stripNamespace name [.table id] = [.table id] :=
      if_neg hnot
    rw [hkept] at halone
    cases halone
  · exact stripNamespace_eq

end Interpreter

/-- What a call of a function value does in a world. -/
def World.call {F : Type} [Dispatch F] (w : World F) (function : FunctionId)
    (args : List Value) : Except Abort (List Value) × World F :=
  (Action.invoke (w.interpreter.callable function) args).run.run w

namespace Blueprint

variable (b : Blueprint Capability) {i : ScriptInterpreter}
  {m : Module Capability} {k : String} {f : Capability}

/-- A function of a namespace is in the table that was bound, and stays what
it is. -/
theorem namespace_function (h : b.configure = .ok i)
    (hm : m ∈ b.registry.modules) (exposure : m.exposure = .globalTable)
    (hk : m.method? k = some (.native f)) :
    ∃ id n, b.bound.global m.name = .table id
      ∧ (b.bound.table id).field k = .func n
      ∧ ∀ w, Reachable i w →
        w.interpreter.callable n = .member m.name f := by
  obtain ⟨id, -, placed⟩ := b.placed_bound (b.bindable_of_configure h) m hm
  have hfunctions := b.functions_configure h
  have hfound := placed.found
  rw [Binder.moduleValue, exposure] at hfound
  have hown : ¬ Binder.IsOwnField m k := by
    rintro ⟨hobject, -⟩
    rw [exposure] at hobject
    cases hobject
  obtain ⟨n, hlt, hfield, hcallable⟩ := placed.method k _ hk hown
  refine ⟨id, n, hfound, hfield, fun w hw => ?_⟩
  rw [← hfunctions] at hlt
  have hmember : Binder.callable m k (.native f) = .member m.name f := by
    rw [Binder.callable, exposure]
  rw [(hw.continues Capability.keepsFrame).callable n hlt,
    Interpreter.callable, hfunctions, ← hmember, ← hcallable]
  rfl

/-- **Which arguments reach a function of a namespace**, in every world that
a configured instance can come into: all but the first one where that is the
table which the global of the name holds now. This is the table that the
function was bound into, for all arguments, exactly while the global holds
it. As long as it does, the table in front of the arguments makes no
difference. -/
theorem namespace_received (h : b.configure = .ok i)
    (hm : m ∈ b.registry.modules) (exposure : m.exposure = .globalTable)
    (hk : m.method? k = some (.native f)) :
    ∃ id n, b.bound.global m.name = .table id
      ∧ (b.bound.table id).field k = .func n
      ∧ ∀ w, Reachable i w →
        (∀ args, w.call n args
            = (f.run (w.interpreter.stripNamespace m.name args)).run.run w)
          ∧ ((∀ args, w.interpreter.stripNamespace m.name args
              = dropTable id args) ↔ w.interpreter.global m.name = .table id)
          ∧ (w.interpreter.global m.name = .table id →
            ∀ args, args.head? ≠ some (.table id) →
              w.call n (.table id :: args) = w.call n args) := by
  obtain ⟨id, n, hbound, hfield, hmember⟩ :=
    b.namespace_function h hm exposure hk
  refine ⟨id, n, hbound, hfield, fun w hw => ?_⟩
  have hcall : ∀ args, w.call n args
      = (f.run (w.interpreter.stripNamespace m.name args)).run.run w := by
    intro args
    rw [World.call, hmember w hw]
    rfl
  refine ⟨hcall, Interpreter.stripNamespace_iff, fun hglobal args hother => ?_⟩
  rw [hcall, hcall, Interpreter.stripNamespace_eq hglobal,
    Interpreter.stripNamespace_eq hglobal, dropTable_self,
    dropTable_other hother]

/-- A namespace of one function. -/
def echoModule : Module Capability :=
  Capability.group "sample" .sample [("echo", .echo)]

/-- A host with this namespace. -/
def echoHost : Blueprint Capability where
  registry := { modules := [echoModule] }
  context := {}
  searchPath := modulePattern ""

theorem configure_echoHost : ∃ i, echoHost.configure = .ok i := by
  have hok : echoHost.configure.toOption.map (fun _ => ()) = some () := by
    decide +kernel
  obtain ⟨i, h, -⟩ := echoHost.configure_of_map hok
  exact ⟨i, h⟩

theorem namespace_received_echo :
    ∃ i, echoHost.configure = .ok i
      ∧ ∃ id n, echoHost.bound.global "sample" = .table id
        ∧ (echoHost.bound.table id).field "echo" = .func n
        ∧ ∀ w, Reachable i w → w.interpreter.global "sample" = .table id →
          (w.call n [.table id, .bool true]).1 = .ok [.bool true] := by
  obtain ⟨i, h⟩ := configure_echoHost
  obtain ⟨id, n, hbound, hfield, hall⟩ := namespace_received echoHost h
    (m := echoModule) (k := "echo") (f := .sample .echo)
    (List.mem_singleton_self _) rfl (by decide +kernel)
  refine ⟨i, h, id, n, hbound, hfield, fun w hw hglobal => ?_⟩
  obtain ⟨hcall, hiff, -⟩ := hall w hw
  rw [hcall, hiff.mpr hglobal, dropTable_self]
  rfl

/-- A script that writes another value to the name of the namespace. -/
def overwriting : Script :=
  [{ deed := .write none [.scalar (.ofText "sample")] (.scalar (.bool true)) }]

/-- After that the function gets the table of its namespace as well. -/
theorem received_after_overwriting :
    ∃ i, echoHost.configure = .ok i
      ∧ ∃ id n w, echoHost.bound.global "sample" = .table id
        ∧ (echoHost.bound.table id).field "echo" = .func n
        ∧ Reachable i w
        ∧ (w.call n [.table id, .bool true]).1
          = .ok [.table id, .bool true] := by
  have hwritten : (echoHost.configure.toOption.map fun i =>
      ((Script.runFrom #[] overwriting).run
        ⟨i, {}⟩).2.interpreter.global "sample") = some (.bool true) := by
    decide +kernel
  obtain ⟨i, h, htrue⟩ := echoHost.configure_of_map hwritten
  obtain ⟨id, n, hbound, hfield, hmember⟩ := namespace_function echoHost h
    (m := echoModule) (k := "echo") (f := .sample .echo)
    (List.mem_singleton_self _) rfl (by decide +kernel)
  have hw := ((Reachable.start (i := i) {}).runFrom overwriting #[]).2
  generalize ((Script.runFrom #[] overwriting).run ⟨i, {}⟩).2 = w at hw htrue
  have hglobal : w.interpreter.global "sample" ≠ .table id := by
    rw [htrue]
    exact nofun
  have hkept : w.interpreter.stripNamespace "sample"
      [.table id, .bool true] = [.table id, .bool true] := if_neg hglobal
  refine ⟨i, h, id, n, w, hbound, hfield, hw, ?_⟩
  rw [World.call, hmember w hw]
  show ((Capability.run (.sample .echo) (w.interpreter.stripNamespace
    echoModule.name _)).run.run w).1 = _
  rw [show echoModule.name = "sample" from rfl, hkept]
  rfl

end Blueprint

end ScriptHost
