/-
ScriptHost.Proofs.Capability.Debug — values as data, whatever they hold.

To take a value as data always comes to an end, also where tables hold each
other: either it gives what the value unfolds to, or there is something in
the value that cannot be data. So `debug.value` has a text for every value.
This is so whichever borders are the lengths of the tables: the length only
decides whether a table becomes data by its items or by all its entries.
-/
import ScriptHost.Capability.Debug
import ScriptHost.Proofs.Script.Action
import ScriptHost.Proofs.Script.Circular

namespace ScriptHost.DebugFunction

variable {F : Type}

open ScriptHost.Action

theorem run_value (args : List Value) (w : World F) :
    (value.run args : Action F (List Value)).run.run w
      = (.ok [.ofText (describe w.interpreter.heap (Argument.nth args 0))],
        w) := by
  rw [run, run_bind, run_interpreter]
  rfl

/-- **Any value is data or it is not, and can be looked at.** To take a value
as data changes nothing. It returns just the data that the value unfolds to,
each use of a table unfolded anew. There is such data exactly if everything
that becomes data with the value can be data, and no table among that is
inside itself. Else it raises an error: one about a table inside itself only
if there is one, and any other only if something cannot be data. And
`debug.value` returns a text for every value. -/
theorem toJson_terminates (w : World F) (v : Value) :
    let h := w.interpreter.heap
    let outcome := (toJson v : Action F Json).run.run w
    ((∃ j, h.UnfoldsTo v j ∧ outcome = (.ok j, w))
        ∨ ∃ e, h.Grounds v e ∧ outcome = (.error (.raised (.data e)), w))
      ∧ (∀ j, outcome = (.ok j, w) ↔ h.UnfoldsTo v j)
      ∧ ((∃ j, outcome = (.ok j, w)) ↔
        (∀ u, h.Involves v u → h.Suitable u)
          ∧ ∀ id, h.Involves v (.table id) → ¬ h.Circular id)
      ∧ DataError.recursive.message = "recursive table detected"
      ∧ ∀ others, ∃ text : String,
        (value.run (v :: others) : Action F (List Value)).run.run w
          = (.ok [.ofText text], w) := by
  intro h outcome
  have returned (j : Json) : outcome = (.ok j, w) ↔ h.UnfoldsTo v j := by
    rw [← Heap.toJson_eq_ok_iff, show outcome = _ from run_toJson v w]
    cases hjson : w.interpreter.heap.toJson v with
    | ok j' =>
      exact ⟨fun heq => congrArg _ (Except.ok.inj (congrArg Prod.fst heq)),
        fun heq => by rw [Except.ok.inj heq]⟩
    | error e => exact ⟨fun heq => (nomatch congrArg Prod.fst heq), nofun⟩
  refine ⟨?_, returned, ?_, rfl, fun others => ⟨_, run_value _ w⟩⟩
  · cases hjson : h.toJson v with
    | ok j =>
      have hv := Heap.toJson_eq_ok_iff.mp hjson
      exact .inl ⟨j, hv, (returned j).mpr hv⟩
    | error e =>
      refine .inr ⟨e, Heap.grounds_of_toJson hjson, ?_⟩
      rw [show outcome = _ from run_toJson v w, hjson]
  · simp only [returned]
    exact Heap.unfoldsTo_iff

/-- Tables that hold each other: an array of two uses of one table, which
holds the array under a name that is no item; a table inside itself; and one
that holds itself behind a gap, with its items in a row or not. -/
def entangled : Heap :=
  ⟨#[{ entries := [(.int 1, .table 1), (.int 2, .table 1),
      (.ofText "self", .table 0)] },
    { entries := [(.ofText "a", .int 5)] },
    { entries := [(.ofText "up", .table 2)] },
    { entries := [(.int 2, .table 3)], storage := { row := 2 } },
    { entries := [(.int 2, .table 4)] }]⟩

example : entangled.toJson (.table 0)
      = .ok (.arr [.obj [("a", .int 5)], .obj [("a", .int 5)]])
    ∧ entangled.toJson (.table 2) = .error .recursive
    ∧ entangled.toJson (.table 3) = .ok (.arr [])
    ∧ entangled.toJson (.table 4) = .error .recursive :=
  ⟨rfl, rfl, rfl, rfl⟩

end ScriptHost.DebugFunction
