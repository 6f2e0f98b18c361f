/-
ScriptHost.Proofs.App.Request — no request between the runs of a host.

`History.no_request_between_runs` says of all histories of an engine that an
instance carries no request between its runs, and that the functions which
need one fail there. The run that an instance has ended by a panic is left
out: its request stays, as `History.request_after_panic` shows. That theorem
also shows a function which fails outside of a run with another error than
the want of a request.
-/
import ScriptHost.App.Application
import ScriptHost.Proofs.Capability.Request
import ScriptHost.Proofs.Engine.History

namespace ScriptHost

namespace History

/-- **Between runs, an instance carries no request, and its functions find
none.** -/
theorem no_request_between_runs (b : Blueprint Capability) (shared : Shared)
    (moves : List (Custody.Move Capability))
    {inst : Instance (Interpreter Capability)}
    (has : ((start b shared).play moves).custody.Has inst)
    (left : (inst.id, inst.uses) ∉ ((start b shared).play moves).panics) :
    inst.state.exchange = none
      ∧ ∀ (c : Capability) (args : List Value) (now : Shared),
        c.IsRequestScoped inst.state.host →
          Action.NeedsRequestAt (c.run args) ⟨inst.state, now⟩ := by
  have clear := play_clear Capability.staysOutside moves
    (start_clear b shared)
  have hnone : inst.state.exchange = none := clear.of_has has left
  refine ⟨hnone, fun c args now needs => ?_⟩
  exact Capability.needsRequest (w := ⟨inst.state, now⟩) hnone needs args

/-! ## Two histories -/

/-- A host without services that offers what is called here. -/
def plainHost : Blueprint Capability where
  registry := { modules :=
    [Capability.group "http" .http HttpFunction.named,
      Capability.group "session" .session SessionFunction.named,
      Capability.group "cache" .cache CacheFunction.named] }
  context := {}
  searchPath := Blueprint.modulePattern ""

/-- A program of one call, which ends as the call ends. -/
def callOf (c : Capability) (args : List Value) :
    StateM (World Capability) (Ended (List Run)) := do
  let result ← (c.run args).run
  pure { report := [], ending := result.map fun _ => () }

/-- A caller writes into the session of a run and gives the instance back;
it is handed out again. -/
def sessionMoves : List (Custody.Move Capability) :=
  [.take "first" true,
    .run (some "first")
      (.program (callOf (.session .set) [.ofText "name", .int 1])) .internal,
    .letGo "first",
    .take "second" false]

theorem no_request_after_session :
    ∃ inst, ((start plainHost {}).play sessionMoves).custody.Has inst
      ∧ (inst.id, inst.uses)
        ∉ ((start plainHost {}).play sessionMoves).panics
      ∧ inst.uses = 1
      ∧ inst.state.exchange = none
      ∧ Action.NeedsRequestAt
        ((Capability.session .get).run [.ofText "name"]) ⟨inst.state, {}⟩ := by
  have hplayed : (((start plainHost {}).play sessionMoves).custody.holding?
        "second").map (·.inst.uses) = some 1
      ∧ ((start plainHost {}).play sessionMoves).panics = [] := by
    decide +kernel
  obtain ⟨huses, hpanics⟩ := hplayed
  obtain ⟨holding, hheld, hone⟩ := Option.map_eq_some_iff.mp huses
  have has : ((start plainHost {}).play sessionMoves).custody.Has
      holding.inst := .inr ⟨"second", holding, hheld, rfl⟩
  have left : (holding.inst.id, holding.inst.uses)
      ∉ ((start plainHost {}).play sessionMoves).panics := by
    rw [hpanics]
    exact List.not_mem_nil
  obtain ⟨hnone, hneeds⟩ :=
    no_request_between_runs plainHost {} sessionMoves has left
  exact ⟨holding.inst, has, left, hone, hnone,
    hneeds (.session .get) _ {} trivial⟩

/-- A lifetime in seconds that no clock can hold. -/
def endlessLifetime : Binary64 := ⟨0x43e158e460913d00⟩

/-- A run ends by a panic, and its instance is handed out again. -/
def panicMoves : List (Custody.Move Capability) :=
  [.run none (.program (callOf (.cache .set)
      [.ofText "name", .int 1, .float endlessLifetime])) .internal,
    .take "second" false]

/-- After a panic the request is still there. A page is refused for want of
its service, before the request is looked for. -/
theorem request_after_panic :
    (∃ inst, ((start plainHost {}).play panicMoves).custody.Has inst
      ∧ inst.state.exchange ≠ none)
    ∧ ∃ inst, ((start plainHost {}).play
        [.take "first" false]).custody.Has inst
      ∧ inst.state.exchange = none
      ∧ (((Capability.http .render).run [.ofText "home"]).run.run
          ⟨inst.state, {}⟩).1
        = .error (.raised (.fault (.unavailable .template))) := by
  have hkept : (((start plainHost {}).play panicMoves).custody.holding?
      "second").map (·.inst.state.exchange.isSome) = some true := by
    decide +kernel
  have hrefused : (((start plainHost {}).play
      [.take "first" false]).custody.holding? "first").map
        (fun holding => (holding.inst.state.exchange.isNone,
          (((Capability.http .render).run [.ofText "home"]).run.run
            ⟨holding.inst.state, {}⟩).1))
      = some (true, .error (.raised (.fault (.unavailable .template)))) := by
    decide +kernel
  obtain ⟨holding, hheld, hsome⟩ := Option.map_eq_some_iff.mp hkept
  obtain ⟨holding', hheld', heq⟩ := Option.map_eq_some_iff.mp hrefused
  obtain ⟨hnone, herror⟩ := Prod.mk.inj heq
  refine ⟨⟨holding.inst, .inr ⟨"second", holding, hheld, rfl⟩, ?_⟩,
    holding'.inst, .inr ⟨"first", holding', hheld', rfl⟩, ?_, herror⟩
  · intro hnone
    rw [hnone] at hsome
    cases hsome
  · exact Option.isNone_iff_eq_none.mp hnone

end History

end ScriptHost
