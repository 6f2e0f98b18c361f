/-
ScriptHost.Proofs.Engine.Configured — what configuring leaves of the
registry.

Binding replaces nothing and is checked, but configuring goes on after that
and writes three globals of its own (`Blueprint.ownGlobals`) without looking
whether they are taken. `Blueprint.configure_keeps` says what this amounts
to. Configuring succeeds exactly when the registry is bindable; each module
and each factory is there in the end, with everything it offers, unless its
global is one of the three; and object types always are.

A module has a table newer than those of the standard libraries, so the
search path is never written into it (`Placed.modifyTable`).
-/
import ScriptHost.Engine.Instance
import ScriptHost.Proofs.Script.Bindable
import ScriptHost.Proofs.Script.Careful

namespace ScriptHost

variable {F : Type}

/-! ## Writing into a table, and growing the heap -/

namespace Interpreter

variable {i : Interpreter F} {other : TableId}

theorem table_modifyTable (i : Interpreter F) (f : Table → Table)
    {id : TableId} (h : other ≠ id) :
    (i.modifyTable other f).table id = i.table id := by
  have hmodify := Heap.table_modify i.heap other f id
  rw [if_neg fun hboth => h hboth.1] at hmodify
  exact hmodify

theorem global_modifyTable (i : Interpreter F) (f : Table → Table)
    (h : other ≠ i.globals) (name : String) :
    (i.modifyTable other f).global name = i.global name := by
  have htable := table_modifyTable i f h
  show ((i.modifyTable other f).table i.globals).field name = _
  rw [htable]
  rfl

theorem HasGlobals.modifyTable (h : i.HasGlobals) (f : Table → Table)
    (hne : other ≠ i.globals) : (i.modifyTable other f).HasGlobals := by
  constructor
  · exact Nat.lt_of_lt_of_le h.present
      (Nat.le_of_eq (Heap.size_modify i.heap other f).symm)
  · show ((i.modifyTable other f).table i.globals).mark = .plain
    rw [table_modifyTable i f hne, h.plain]

theorem grows_heap (h : i.HasGlobals) {heap : Heap}
    (extends' : i.heap.Extends heap) :
    Grows [] [] i { i with heap := heap } :=
  have hglobals : heap.table i.globals = i.heap.table i.globals :=
    extends'.table_eq _ h.present
  { Grows.refl i with
    tables := extends'.size_le
    table := fun id hid _ => extends'.table_eq id hid
    mark := congrArg Table.mark hglobals
    entry := fun key _ => congrArg (·.get key) hglobals }

end Interpreter

namespace Binder

variable {m : Module F} {i : Interpreter F} {id other : TableId}

theorem moduleValue_modifyTable (m : Module F) (f : Table → Table)
    (h : other ≠ i.globals) :
    moduleValue m (i.modifyTable other f) = moduleValue m i := by
  unfold moduleValue
  cases m.exposure with
  | globalTable => exact Interpreter.global_modifyTable i f h m.name
  | objectType => rfl

theorem moduleValue_of_mem {n : String} (h : n ∈ globalNames m) :
    moduleValue m i = i.global n := by
  obtain rfl := mem_globalNames h
  unfold globalNames at h
  unfold moduleValue
  cases exposure : m.exposure with
  | globalTable => rfl
  | objectType => simp [exposure] at h

/-- A module stays in its place while another table is written. -/
theorem Placed.modifyTable (placed : Placed m i id) (f : Table → Table)
    (h : other ≠ i.globals) (hne : other ≠ id) :
    Placed m (i.modifyTable other f) id := by
  have htable := Interpreter.table_modifyTable i f hne
  constructor
  · exact Nat.lt_of_lt_of_le placed.present
      (Nat.le_of_eq (Heap.size_modify i.heap other f).symm)
  · exact placed.apart
  · rw [moduleValue_modifyTable m f h, placed.found]
  · rw [htable, placed.plain]
  · rw [htable]
    exact placed.method
  · rw [htable]
    exact placed.own
  · rw [htable]
    exact placed.absent

theorem FactoryPlaced.modifyTable {f : Factory F} (placed : FactoryPlaced f i)
    (g : Table → Table) (h : other ≠ i.globals) :
    FactoryPlaced f (i.modifyTable other g) := by
  unfold FactoryPlaced
  rw [Interpreter.global_modifyTable i g h]
  exact placed

end Binder

namespace Blueprint

variable (b : Blueprint F) {i : Interpreter F}

/-! ## The globals that configuring sets -/

/-- The globals that configuring sets after binding. -/
def ownGlobals : List String := [logFileGlobal, dataGlobal, configGlobal]

/-- The interpreter with the name of the log file and the data
directory. -/
def withNames (i : Interpreter F) : Interpreter F :=
  (i.setGlobal logFileGlobal
    (.ofText (logFileName b.context.logDate))).setGlobal dataGlobal
      (.ofText b.context.config.datapack)

/-- The interpreter with the search path in a table. -/
def withPath (package : TableId) (i : Interpreter F) : Interpreter F :=
  i.modifyTable package (·.set (.ofText "path") (.ofText b.searchPath))

/-- The interpreter with the configuration. -/
def withConfig (i : Interpreter F) : Interpreter F :=
  { i with
    heap := (i.heap.ofJson (configData b.context.config)).2 }.setGlobal
      configGlobal (i.heap.ofJson (configData b.context.config)).1

theorem grows_withNames (h : i.HasGlobals) :
    i.Grows [logFileGlobal, dataGlobal] [] (b.withNames i) := by
  have hfirst := Interpreter.grows_setGlobal i logFileGlobal
    (v := .ofText (logFileName b.context.logDate)) nofun h
  exact hfirst.trans (Interpreter.grows_setGlobal _ dataGlobal nofun
    (hfirst.hasGlobals h))

/-- Both names are texts. -/
theorem global_withNames (h : i.HasGlobals) {name : String}
    (hname : name ∈ [logFileGlobal, dataGlobal]) :
    ∃ text, (b.withNames i).global name = .ofText text := by
  have hfirst := (Interpreter.grows_setGlobal i logFileGlobal
    (v := .ofText (logFileName b.context.logDate)) nofun h).hasGlobals h
  rcases List.mem_pair.mp hname with rfl | rfl
  · -- The second write is under another name.
    have hsecond := Interpreter.grows_setGlobal _ dataGlobal
      (v := .ofText b.context.config.datapack) nofun hfirst
    exact ⟨_, (hsecond.global (by decide)).trans
      (Interpreter.global_setGlobal i logFileGlobal nofun h)⟩
  · exact ⟨_, Interpreter.global_setGlobal _ dataGlobal nofun hfirst⟩

/-- The configuration is in a new table. -/
theorem config_table (h : Heap) :
    ∃ id, h.tables.size ≤ id
      ∧ (h.ofJson (configData b.context.config)).1 = .table id :=
  Heap.ofJson_obj _ h

theorem grows_withConfig (h : i.HasGlobals) :
    i.Grows [configGlobal] [] (b.withConfig i) := by
  have hheap := Interpreter.grows_heap h
    (Heap.ofJson_extends (configData b.context.config) i.heap)
  obtain ⟨id, -, happ⟩ := b.config_table i.heap
  exact hheap.trans (Interpreter.grows_setGlobal _ configGlobal
    (by rw [happ]; exact nofun) (hheap.hasGlobals h))

/-- The interpreter with all globals that configuring sets, given the table
of the search paths. -/
def withGlobals (package : TableId) (i : Interpreter F) : Interpreter F :=
  b.withConfig (b.withPath package (b.withNames i))

theorem functions_withGlobals (package : TableId) (i : Interpreter F) :
    (b.withGlobals package i).functions = i.functions := by
  simp only [withGlobals, withConfig, withPath, withNames,
    Interpreter.setGlobal, Interpreter.modifyTable]

theorem classes_withGlobals (package : TableId) (i : Interpreter F) :
    (b.withGlobals package i).classes = i.classes := by
  simp only [withGlobals, withConfig, withPath, withNames,
    Interpreter.setGlobal, Interpreter.modifyTable]

theorem setGlobals_ok {package : TableId}
    (h : (b.withNames i).global Interpreter.packageName = .table package) :
    b.setGlobals i = .ok (b.withGlobals package i) := by
  unfold withNames at h
  unfold setGlobals
  dsimp only
  split
  · rename_i id hid
    obtain rfl := Value.table.inj (h.symm.trans hid)
    rfl
  · rename_i hnot
    exact absurd h (hnot package)

/-! ## What they leave alone -/

section Kept

variable {package : TableId} {m : Module F} {f : Factory F} {id : TableId}

theorem mem_ownGlobals {name : String} : name ∈ ownGlobals
    ↔ name ∈ [logFileGlobal, dataGlobal] ∨ name ∈ [configGlobal] := by
  simp [ownGlobals, or_assoc]

theorem hasGlobals_withPath (h : i.HasGlobals) (hne : package ≠ i.globals) :
    (b.withPath package (b.withNames i)).HasGlobals :=
  have hgrows := b.grows_withNames h
  (hgrows.hasGlobals h).modifyTable _ (hgrows.globals ▸ hne)

/-- The tables of a module under a name of its own last. -/
theorem placed_withGlobals (h : i.HasGlobals) (hne : package ≠ i.globals)
    (hold : package ≠ id) (placed : Binder.Placed m i id)
    (hnames : ∀ n ∈ Binder.globalNames m, n ∉ ownGlobals) :
    Binder.Placed m (b.withGlobals package i) id := by
  have hgrows := b.grows_withNames h
  have hnamed := placed.grows hgrows
    (fun n hn hmem => hnames n hn (mem_ownGlobals.mpr (.inl hmem))) (by simp)
  have hpath := hnamed.modifyTable
    (·.set (.ofText "path") (.ofText b.searchPath)) (hgrows.globals ▸ hne)
    hold
  exact hpath.grows (b.grows_withConfig (b.hasGlobals_withPath h hne))
    (fun n hn hmem => hnames n hn (mem_ownGlobals.mpr (.inr hmem))) (by simp)

theorem factoryPlaced_withGlobals (h : i.HasGlobals)
    (hne : package ≠ i.globals) (placed : Binder.FactoryPlaced f i)
    (hname : f.name ∉ ownGlobals) :
    Binder.FactoryPlaced f (b.withGlobals package i) := by
  have hgrows := b.grows_withNames h
  rw [mem_ownGlobals, not_or] at hname
  have hpath := (placed.grows hgrows hname.1).modifyTable
    (·.set (.ofText "path") (.ofText b.searchPath)) (hgrows.globals ▸ hne)
  exact hpath.grows (b.grows_withConfig (b.hasGlobals_withPath h hne)) hname.2

/-- What is under a name of configuring is a text or a new table. -/
theorem ownGlobal_withGlobals (h : i.HasGlobals) (hne : package ≠ i.globals)
    {name : String} (hname : name ∈ ownGlobals) :
    (∃ text, (b.withGlobals package i).global name = .ofText text)
      ∨ ∃ id, i.heap.tables.size ≤ id
        ∧ (b.withGlobals package i).global name = .table id := by
  have hgrows := b.grows_withNames h
  have hpath := b.hasGlobals_withPath h hne
  by_cases hconfig : name ∈ [configGlobal]
  · rw [List.mem_singleton.mp hconfig]
    obtain ⟨id, hnew, happ⟩ :=
      b.config_table (b.withPath package (b.withNames i)).heap
    have hheap := Interpreter.grows_heap hpath
      (Heap.ofJson_extends (configData b.context.config) _)
    refine .inr ⟨id, Nat.le_trans hgrows.tables ?_, ?_⟩
    · rwa [withPath, Interpreter.modifyTable, Heap.size_modify] at hnew
    · rw [← happ]
      exact Interpreter.global_setGlobal _ configGlobal
        (by rw [happ]; simp) (hheap.hasGlobals hpath)
  · obtain ⟨text, htext⟩ := b.global_withNames h
      ((mem_ownGlobals.mp hname).resolve_right hconfig)
    refine .inl ⟨text, ?_⟩
    rw [withGlobals, (b.grows_withConfig hpath).global hconfig, withPath,
      Interpreter.global_modifyTable _ _ (hgrows.globals ▸ hne), htext]

end Kept

/-! ## Configuring -/

/-- The interpreter of a new instance before anything is bound. -/
def unbound : Interpreter F := .fresh (some b.context)

/-- The interpreter right after binding. -/
def bound : Interpreter F :=
  ((Binder.bindRegistry b.registry).run.run
    { interpreter := b.unbound }).2.interpreter

/-- The table of the search paths is there from the start. -/
theorem package_fresh (host : Option HostContext) :
    ∃ package, package < (Interpreter.fresh host : Interpreter F).heap.tables.size
      ∧ package ≠ (Interpreter.fresh host : Interpreter F).globals
      ∧ (Interpreter.fresh host : Interpreter F).global Interpreter.packageName
        = .table package := by
  unfold Interpreter.global Interpreter.table
  rw [Interpreter.heap_fresh, Interpreter.globals_fresh]
  exact ⟨4, by decide +kernel⟩

theorem hasGlobals_unbound : b.unbound.HasGlobals :=
  Interpreter.hasGlobals_fresh _

/-- Configuring refuses what binding refuses. -/
theorem bindable_of_configure (h : b.configure = .ok i) :
    Binder.Bindable b.registry b.unbound := by
  have hguarded := Binder.bindRegistry_guarded b.registry
  rw [← Binder.freeRegistry_iff b.registry b.hasGlobals_unbound,
    ← hguarded.ok_iff]
  unfold configure at h
  split at h
  · rename_i binder hrun
    exact congrArg Prod.fst hrun
  · cases h

/-- What binding yields where the registry is bindable. -/
theorem run_bindRegistry
    (bindable : Binder.Bindable b.registry b.unbound) :
    (Binder.bindRegistry b.registry).run.run { interpreter := b.unbound }
      = (.ok (), Binder.addRegistry b.registry { interpreter := b.unbound }) :=
  (Binder.bindRegistry_guarded b.registry).done _
    ((Binder.freeRegistry_iff b.registry b.hasGlobals_unbound).mpr bindable)

theorem grows_bound (bindable : Binder.Bindable b.registry b.unbound) :
    b.unbound.Grows (Binder.registryNames b.registry)
      (Binder.registryTypes b.registry) b.bound := by
  rw [bound, b.run_bindRegistry bindable]
  exact Binder.grows_addRegistry b.registry
    (b := { interpreter := b.unbound }) b.hasGlobals_unbound

theorem hasGlobals_bound (bindable : Binder.Bindable b.registry b.unbound) :
    b.bound.HasGlobals :=
  (b.grows_bound bindable).hasGlobals b.hasGlobals_unbound

/-- Every module is in its place then, with a new table. -/
theorem placed_bound (bindable : Binder.Bindable b.registry b.unbound) :
    ∀ m ∈ b.registry.modules,
      Binder.ModulePlaced b.unbound.heap.tables.size m b.bound := by
  rw [bound, b.run_bindRegistry bindable]
  exact Binder.placed_addRegistry b.registry b.hasGlobals_unbound
    bindable.modules bindable.apart

theorem factoryPlaced_bound
    (bindable : Binder.Bindable b.registry b.unbound) :
    ∀ f ∈ b.registry.factories, Binder.FactoryPlaced f b.bound := by
  rw [bound, b.run_bindRegistry bindable]
  exact Binder.placed_factories
    ((Binder.grows_row Binder.grows_addModule b.registry.modules
      { interpreter := b.unbound } b.hasGlobals_unbound).hasGlobals
        b.hasGlobals_unbound) bindable.factories

/-- What is seen of a new instance, if there is one. -/
theorem configure_of_map {α : Type} {f : Interpreter F → α} {x : α}
    (h : b.configure.toOption.map f = some x) :
    ∃ i, b.configure = .ok i ∧ f i = x := by
  cases hconfigure : b.configure with
  | ok i =>
    rw [hconfigure] at h
    exact ⟨i, rfl, Option.some.inj h⟩
  | error e =>
    rw [hconfigure] at h
    cases h

/-- **Configuring goes on after binding without a failure**, for the table
of the search paths cannot have been taken. -/
theorem configure_ok (bindable : Binder.Bindable b.registry b.unbound) :
    ∃ package, package < b.unbound.heap.tables.size
      ∧ package ≠ b.bound.globals
      ∧ b.configure = .ok (b.withGlobals package b.bound) := by
  have hgrows := b.grows_bound bindable
  obtain ⟨package, hold, hne, hpackage⟩ :=
    package_fresh (F := F) (some b.context)
  have hfree : Interpreter.packageName
      ∉ Binder.registryNames b.registry := by
    intro hname
    have hnil := bindable.globals _ hname
    rw [unbound, hpackage] at hnil
    cases hnil
  refine ⟨package, hold, hgrows.globals ▸ hne, ?_⟩
  have hrun : (Binder.bindRegistry b.registry).run
      { interpreter := .fresh (some b.context) } = _ :=
    b.run_bindRegistry bindable
  unfold configure
  rw [hrun]
  dsimp only
  have hsame : (Binder.addRegistry b.registry
      { interpreter := b.unbound }).interpreter = b.bound := by
    rw [bound, b.run_bindRegistry bindable]
  rw [hsame]
  refine b.setGlobals_ok ?_
  rw [(b.grows_withNames (b.hasGlobals_bound bindable)).global (by decide),
    hgrows.global hfree]
  exact hpackage

/-- A configured interpreter is the bound one with the globals that
configuring sets. -/
theorem configured_eq (h : b.configure = .ok i) :
    ∃ package, package < b.unbound.heap.tables.size
      ∧ package ≠ b.bound.globals ∧ i = b.withGlobals package b.bound := by
  obtain ⟨package, hold, hne, hok⟩ :=
    b.configure_ok (b.bindable_of_configure h)
  exact ⟨package, hold, hne, Except.ok.inj (h.symm.trans hok)⟩

/-- Configuring makes no functions after binding. -/
theorem functions_configure (h : b.configure = .ok i) :
    i.functions = b.bound.functions := by
  obtain ⟨package, -, -, rfl⟩ := b.configured_eq h
  rw [functions_withGlobals]

/-- The object types of the registry are there. -/
theorem hasType_configure (h : b.configure = .ok i) {m : Module F}
    (hm : m ∈ b.registry.modules) (exposure : m.exposure = .objectType) :
    i.HasType m.name := by
  obtain ⟨id, -, placed⟩ :=
    b.placed_bound (b.bindable_of_configure h) m hm
  have hfound := placed.found
  rw [Binder.moduleValue, exposure] at hfound
  obtain ⟨package, -, -, rfl⟩ := b.configured_eq h
  rw [Interpreter.HasType, classes_withGlobals]
  cases hget : b.bound.classes.get? m.name with
  | none => simp [hget] at hfound
  | some id => rfl

variable [Dispatch F]

/-- The table of a module is the one that was bound, and all its methods can
be called and do what they are there for. -/
def ModuleKept (m : Module F) (bound i : Interpreter F) : Prop :=
  (∃ id, Binder.moduleValue m bound = .table id
    ∧ Binder.moduleValue m i = .table id)
  ∧ ∀ k β, m.method? k = some β →
    ∃ c, Binder.method? m k i = some c ∧ Binder.Answers m k c β

/-- A factory can be called and does what it is there for. -/
def FactoryKept (f : Factory F) (i : Interpreter F) : Prop :=
  ∃ c, i.callable? (i.global f.name) = some c
    ∧ ∀ args, Action.invoke c args = Dispatch.run f.function args

/-- A module outlasts configuring exactly if its global is its own. -/
theorem moduleKept_iff (h : b.configure = .ok i) {m : Module F}
    (hm : m ∈ b.registry.modules) :
    ModuleKept m b.bound i
      ↔ ∀ n ∈ Binder.globalNames m, n ∉ ownGlobals := by
  have bindable := b.bindable_of_configure h
  have hbound := b.hasGlobals_bound bindable
  obtain ⟨package, hold, hne, rfl⟩ := b.configured_eq h
  obtain ⟨id, hbase, placed⟩ := b.placed_bound bindable m hm
  constructor
  · rintro ⟨⟨id', hfirst, hlast⟩, -⟩ n hn hown
    obtain rfl : id = id' :=
      Value.table.inj (placed.found.symm.trans hfirst)
    rw [Binder.moduleValue_of_mem hn] at hlast
    -- The global now holds a text, or a table that is newer than the module's.
    rcases b.ownGlobal_withGlobals hbound hne hown with
      ⟨text, htext⟩ | ⟨id', hnew, htable⟩
    · rw [htext] at hlast
      cases hlast
    · rw [htable] at hlast
      cases hlast
      exact absurd placed.present (Nat.not_lt.mpr hnew)
  · intro hnames
    have hplaced := b.placed_withGlobals hbound hne
      (Nat.ne_of_lt (Nat.lt_of_lt_of_le hold hbase)) placed hnames
    refine ⟨⟨id, placed.found, hplaced.found⟩, fun k β hβ => ?_⟩
    refine ⟨_, hplaced.method? hβ fun hown => ?_,
      Binder.answers_callable m k β⟩
    rw [Binder.ownFields_iff.mpr (bindable.fields m hm) k hown] at hβ
    cases hβ

/-- The same of a factory. -/
theorem factoryKept_iff (h : b.configure = .ok i) {f : Factory F}
    (hf : f ∈ b.registry.factories) :
    FactoryKept f i ↔ f.name ∉ ownGlobals := by
  have bindable := b.bindable_of_configure h
  have hbound := b.hasGlobals_bound bindable
  obtain ⟨package, -, hne, rfl⟩ := b.configured_eq h
  constructor
  · rintro ⟨c, hc, -⟩ hown
    rcases b.ownGlobal_withGlobals hbound hne hown with
      ⟨text, htext⟩ | ⟨id, -, htable⟩
    · rw [htext] at hc
      cases hc
    · rw [htable] at hc
      cases hc
  · intro hname
    obtain ⟨n, -, hglobal, hcallable⟩ :=
      b.factoryPlaced_withGlobals hbound hne
        (b.factoryPlaced_bound bindable f hf) hname
    exact ⟨.plain f.function,
      by rw [hglobal, Interpreter.callable?, hcallable], fun _ => rfl⟩

/-- **What configuring keeps.** It succeeds exactly when the registry is
bindable in a new interpreter. Then a module is there as it was bound, with
all its methods, exactly if its global, where it has one, is none that
configuring sets; and a factory is, exactly if its name is none of them. -/
theorem configure_keeps :
    ((∃ i, b.configure = .ok i) ↔ Binder.Bindable b.registry b.unbound)
      ∧ ∀ i, b.configure = .ok i →
        (∀ m ∈ b.registry.modules, ModuleKept m b.bound i
          ↔ ∀ n ∈ Binder.globalNames m, n ∉ ownGlobals)
        ∧ ∀ f ∈ b.registry.factories,
          FactoryKept f i ↔ f.name ∉ ownGlobals := by
  refine ⟨⟨fun ⟨i, h⟩ => b.bindable_of_configure h, fun bindable => ?_⟩,
    fun i h => ⟨fun m hm => b.moduleKept_iff h hm,
      fun f hf => b.factoryKept_iff h hf⟩⟩
  obtain ⟨package, -, -, hok⟩ := b.configure_ok bindable
  exact ⟨_, hok⟩

/-- A host of lamps. -/
def lampHost : Blueprint SampleFunction where
  registry := Binder.lamps
  context := {}
  searchPath := modulePattern ""

theorem configure_keeps_lamps :
    ∃ i, lampHost.configure = .ok i
      ∧ (∀ m ∈ Binder.lamps.modules, ModuleKept m lampHost.bound i)
      ∧ ∀ f ∈ Binder.lamps.factories, FactoryKept f i := by
  obtain ⟨hiff, hkeeps⟩ := configure_keeps lampHost
  have hok : ((Binder.bindRegistry Binder.lamps).run.run
      { interpreter := lampHost.unbound }).1 = .ok () := by decide +kernel
  have bindable := (Binder.bindRegistry_guarded Binder.lamps).ok_iff
    { interpreter := lampHost.unbound } |>.mp hok
  rw [Binder.freeRegistry_iff _ lampHost.hasGlobals_unbound] at bindable
  obtain ⟨i, h⟩ := hiff.mpr bindable
  obtain ⟨hmodules, hfactories⟩ := hkeeps i h
  exact ⟨i, h, fun m hm => (hmodules m hm).mpr (by revert m; decide),
    fun f hf => (hfactories f hf).mpr (by revert f; decide)⟩

/-- A host whose one namespace is called as the configuration is. -/
def namesakeHost : Blueprint SampleFunction where
  registry := { modules := [.ofFunctions configGlobal [("echo", .echo)]] }
  context := {}
  searchPath := modulePattern ""

/-- A namespace is lost, and configuring succeeds. -/
theorem configure_loses_namesake :
    ∃ i, namesakeHost.configure = .ok i
      ∧ ∃ m ∈ namesakeHost.registry.modules,
        m.method? "echo" = some (.native .echo)
          ∧ (Binder.method? m "echo" namesakeHost.bound).isSome = true
          ∧ Binder.method? m "echo" i = none := by
  have hlost : (namesakeHost.configure.toOption.map fun i =>
      namesakeHost.registry.modules.all fun m =>
        m.method? "echo" = some (.native .echo)
          && (Binder.method? m "echo" namesakeHost.bound).isSome
          && (Binder.method? m "echo" i).isNone) = some true := by
    decide +kernel
  obtain ⟨i, h, hall⟩ := namesakeHost.configure_of_map hlost
  obtain ⟨m, hm⟩ : ∃ m, m ∈ namesakeHost.registry.modules :=
    ⟨_, List.mem_singleton_self _⟩
  have hm' := List.all_eq_true.mp hall m hm
  simp only [Bool.and_eq_true, decide_eq_true_eq, Option.isNone_iff_eq_none]
    at hm'
  exact ⟨i, h, m, hm, hm'.1.1, hm'.1.2, hm'.2⟩

end Blueprint

end ScriptHost
