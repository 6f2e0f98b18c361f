/-
ScriptHost.Proofs.Capability.Settings — `config.get` and the global `app`.

Configuring builds `app` from the configuration once
(`Blueprint.holds_app`); `config.get` looks a path up in the configuration
and builds the value of what it finds anew. The path and the place in `app`
lead to the same data, but `config.get` has nil for a double that is not
finite. So the two values are alike unless there is such a double in the data
(`SettingsFunction.get_app`).
-/
import ScriptHost.Capability.Settings
import ScriptHost.Proofs.Config.View
import ScriptHost.Proofs.Engine.Configured
import ScriptHost.Proofs.Script.Action
import ScriptHost.Proofs.Script.Alike

namespace ScriptHost

namespace Config

/-- A path of names without dots is split into the names. -/
theorem splitPath_intercalate {names : List String} (hne : names ≠ [])
    (dotless : ∀ name ∈ names, '.' ∉ name.toList) :
    splitPath (".".intercalate names) = names := by
  have hsplit : (['.'].intercalate (names.map String.toList)).splitOn '.'
      = names.map String.toList :=
    List.splitOn_intercalate '.' (List.forall_mem_map.mpr dotless)
      (by rwa [Ne, List.map_eq_nil_iff])
  rw [splitPath, String.toList_intercalate]
  show (List.splitOn '.' (['.'].intercalate _)).map String.ofList = names
  have hback : String.ofList ∘ String.toList = id :=
    funext fun _ => String.ofList_toList
  rw [hsplit, List.map_map, hback, List.map_id]

/-- What is in the view is found there first. -/
theorem lookup?_of_follow? {c : Config} {names : List String} {j : Json}
    (hne : names ≠ []) (dotless : ∀ name ∈ names, '.' ∉ name.toList)
    (found : follow? c.view names = some j) :
    c.lookup? (".".intercalate names) = some j := by
  unfold lookup?
  rw [splitPath_intercalate hne dotless]
  dsimp only
  rw [found]

end Config

/-! ## The global `app` -/

namespace Interpreter

/-- The table of the globals is older than the tables of new data. So the
global of the data can as well be written before the data is there. -/
theorem holds_setGlobal {F : Type} {i : Interpreter F} (h : i.HasGlobals)
    (name : String) {j : Json} (hv : (i.heap.ofJson j).1 ≠ .nil) :
    let i' := { i with heap := (i.heap.ofJson j).2 }.setGlobal name
      (i.heap.ofJson j).1
    i'.heap.Holds (i'.global name) j := by
  intro i'
  have hheap := grows_heap h (Heap.ofJson_extends j i.heap)
  have hglobal : i'.global name = (i.heap.ofJson j).1 :=
    global_setGlobal _ name hv (hheap.hasGlobals h)
  have hholds := Heap.holds_ofJson (i.heap.modify i.globals
    (·.set (.ofText name) (i.heap.ofJson j).1)) j
  rw [Heap.ofJson_modify _ j h.present] at hholds
  rw [hglobal]
  exact hholds

end Interpreter

namespace Blueprint

variable {F : Type} {b : Blueprint F} {i : Interpreter F}

/-- The host is there from the start. -/
theorem host_configure (h : b.configure = .ok i) :
    i.host = some b.context := by
  have hgrows := b.grows_bound (b.bindable_of_configure h)
  obtain ⟨package, -, -, rfl⟩ := b.configured_eq h
  have hlater : (b.withGlobals package b.bound).host = b.bound.host := by
    simp only [withGlobals, withConfig, withPath, withNames,
      Interpreter.setGlobal, Interpreter.modifyTable]
  exact hlater.trans hgrows.host

/-- **The global `app` holds the configuration.** -/
theorem holds_app (h : b.configure = .ok i) :
    i.heap.Holds (i.global configGlobal) (configData b.context.config) := by
  have hbound := b.hasGlobals_bound (b.bindable_of_configure h)
  obtain ⟨package, -, hne, rfl⟩ := b.configured_eq h
  obtain ⟨id, -, happ⟩ :=
    b.config_table (b.withPath package (b.withNames b.bound)).heap
  exact Interpreter.holds_setGlobal (b.hasGlobals_withPath hbound hne)
    configGlobal (by rw [happ]; exact nofun)

/-- What lies at a place of the global `app`. -/
def reached (i : Interpreter F) (place : List String) : Value :=
  i.rawPath (i.global configGlobal) (place.map .ofText)

/-- Where there is something in `app`, there is the data it is built for. -/
theorem holds_reached (h : b.configure = .ok i) {place : List String}
    (there : reached i place ≠ .nil) :
    ∃ j, Config.follow? (configData b.context.config) place = some j
      ∧ i.heap.Holds (reached i place) j := by
  have hpath := (holds_app h).path (Config.ordered_configData _) place
  cases hfound : Config.follow? (configData b.context.config) place with
  | none =>
    rw [hfound] at hpath
    exact absurd hpath there
  | some j =>
    rw [hfound] at hpath
    exact ⟨j, rfl, hpath⟩

end Blueprint

/-! ## Single settings -/

namespace SettingsFunction

variable {F G : Type}

theorem run_get {w : World F} {context : HostContext} {text : String}
    {j : Json} (host : w.interpreter.host = some context)
    (found : context.config.lookup? text = some j) :
    (get.run [.ofText text] : Action F (List Value)).run.run w
      = (.ok [(w.interpreter.heap.ofJson j).1],
        { w with interpreter.heap := (w.interpreter.heap.ofJson j).2 }) := by
  have hhost : (Action.host : Action F HostContext).run.run w
      = (.ok context, w) := by rw [Action.run_host, host]
  rw [run, run_bind, Action.run_argument_text]
  dsimp only
  rw [run_bind, hhost]
  dsimp only
  rw [found, run_bind, Action.ofJson?, Action.run_ofJson]
  rfl

/-- **`config.get` and `app` agree.** What a configured interpreter has at a
place of `app` was built for the data there, and `config.get` with the path
of the place returns a value built for this data too, with nil for the doubles
that are not finite. If there are none, the two values are alike. -/
theorem get_app {b : Blueprint G} {i : Interpreter G}
    (configured : b.configure = .ok i) {path place : List String}
    (same : b.context.config.Place path place)
    (dotless : ∀ name ∈ path, '.' ∉ name.toList)
    (there : Blueprint.reached i place ≠ .nil) :
    ∃ j, Config.follow? (Blueprint.configData b.context.config) place = some j
      ∧ i.heap.Holds (Blueprint.reached i place) j
      ∧ ∀ w : World F, w.interpreter.host = some b.context →
        let (v, heap) := w.interpreter.heap.ofJson j.finite
        (get.run [.ofText (".".intercalate path)] :
            Action F (List Value)).run.run w
          = (.ok [v], { w with interpreter.heap := heap })
        ∧ (j.Finite →
          Heap.Alike i.heap heap (Blueprint.reached i place) v) := by
  obtain ⟨j, found, holds⟩ := Blueprint.holds_reached configured there
  refine ⟨j, found, holds, fun w host => ⟨?_, fun finite => ?_⟩⟩
  · exact run_get host (Config.lookup?_of_follow? same.ne_nil dotless
      (Config.follow?_view same found))
  · rw [finite.eq]
    exact holds.alike (Heap.holds_ofJson _ _)

/-- A shop with its hours on a day. -/
def shop : List (String × Toml) :=
  [("day", .date "2024-05-01"), ("hours", .arr [.int 8, .float (.ofInt 12),
    .table [("late", .bool true)]])]

/-- A host with custom settings and nothing bound. -/
def customHost (custom : List (String × Toml)) : Blueprint SampleFunction where
  registry := {}
  context := { config := { custom := .ofList custom } }
  searchPath := Blueprint.modulePattern ""

theorem get_app_shop :
    ∃ i, (customHost [("shop", .table shop)]).configure = .ok i
      ∧ Blueprint.reached i ["Custom", "shop"] ≠ .nil
      ∧ ∃ v heap, (get.run [.ofText "Custom.shop"] :
          Action SampleFunction (List Value)).run.run ⟨i, {}⟩
            = (.ok [v], ⟨{ i with heap := heap }, {}⟩)
        ∧ Heap.Alike i.heap heap (Blueprint.reached i ["Custom", "shop"])
          v := by
  have hseen : ((customHost [("shop", .table shop)]).configure.toOption.map
      fun i => (Blueprint.reached i ["Custom", "shop"]).isNil)
        = some false := by
    decide +kernel
  obtain ⟨i, h, hnil⟩ := Blueprint.configure_of_map _ hseen
  have there : Blueprint.reached i ["Custom", "shop"] ≠ .nil := by
    intro heq
    rw [heq] at hnil
    cases hnil
  obtain ⟨j, found, -, gets⟩ := get_app (F := SampleFunction) h
    (.inner ["shop"] (by decide)) (by decide) there
  have hdata : some j = some (.obj [("day", (Toml.date "2024-05-01").data),
      ("hours", .arr [.int 8, .float (.ofInt 12),
        .obj [("late", .bool true)]])]) := found.symm.trans rfl
  have finite : j.Finite := by
    have hnoon : (Binary64.ofInt 12).isFinite = true := by decide
    rw [Option.some.inj hdata]
    simp [Toml.data, Json.Finite, Json.Everywhere, Json.EverywhereItems,
      Json.EverywhereFields, hnoon]
  obtain ⟨hget, halike⟩ := gets ⟨i, {}⟩ (Blueprint.host_configure h)
  exact ⟨i, h, there, _, _, hget, halike finite⟩

/-- One setting, which is not finite. -/
def endless : List (String × Toml) := [("x", .float .infinity)]

/-- `app` has infinity where `config.get` returns nil. -/
theorem get_app_endless :
    ∃ i, (customHost endless).configure = .ok i
      ∧ Blueprint.reached i ["Custom", "x"] = .float .infinity
      ∧ (get.run [.ofText "Custom.x"] :
          Action SampleFunction (List Value)).run.run ⟨i, {}⟩
            = (.ok [.nil], ⟨i, {}⟩) := by
  have hseen : ((customHost endless).configure.toOption.map
      fun i => Blueprint.reached i ["Custom", "x"])
        = some (.float .infinity) := by
    decide +kernel
  obtain ⟨i, h, hreached⟩ := Blueprint.configure_of_map _ hseen
  have found : (customHost endless).context.config.lookup? "Custom.x"
      = some .null := rfl
  exact ⟨i, h, hreached, run_get (Blueprint.host_configure h) found⟩

end SettingsFunction

end ScriptHost
