/-
ScriptHost.Proofs.Script.Bindable — when a registry can be bound, and what
is there then.

Binding goes through the modules, through the factories and then over both
again to check. `Bindable` says when nothing of this is refused, in terms of
the registry and of the interpreter before. `bindRegistry_iff` is the main
result: binding succeeds exactly then, everything in the registry can be
called afterwards (`Offers`), and what was there before is untouched.
-/
import ScriptHost.Proofs.Script.Binder

namespace ScriptHost

namespace Binder

variable {F : Type} {m : Module F} {i i' : Interpreter F}
  {names types : List String} {b : Binder F}

/-! ## Modules in a row -/

theorem mem_globalNames {n : String} (h : n ∈ globalNames m) :
    n = m.name := by
  unfold globalNames at h
  split at h
  · exact List.mem_singleton.mp h
  · cases h

theorem mem_typeNames {n : String} (h : n ∈ typeNames m) : n = m.name := by
  unfold typeNames at h
  split at h
  · cases h
  · exact List.mem_singleton.mp h

/-- A namespace in its place is a global. -/
theorem Placed.global {id : TableId} (placed : Placed m i id) {n : String}
    (h : n ∈ globalNames m) : i.global n = .table id := by
  obtain rfl := mem_globalNames h
  have hfound := placed.found
  unfold globalNames at h
  unfold moduleValue at hfound
  cases exposure : m.exposure with
  | globalTable => simpa only [exposure] using hfound
  | objectType => simp [exposure] at h

/-- An object type in its place has its table. -/
theorem Placed.type {id : TableId} (placed : Placed m i id) {n : String}
    (h : n ∈ typeNames m) : i.classes.get? n = some id := by
  obtain rfl := mem_typeNames h
  have hfound := placed.found
  unfold typeNames at h
  unfold moduleValue at hfound
  cases exposure : m.exposure with
  | globalTable => simp [exposure] at h
  | objectType =>
    simp only [exposure] at hfound
    cases hget : i.classes.get? m.name with
    | none => simp [hget] at hfound
    | some id' =>
      simp only [hget, Value.table.injEq] at hfound
      rw [hfound]

/-- Growth under other names leaves what is found under a module's name. -/
theorem moduleValue_grows (h : i.Grows names types i')
    (hnames : ∀ n ∈ globalNames m, n ∉ names)
    (htypes : ∀ n ∈ typeNames m, n ∉ types) :
    moduleValue m i' = moduleValue m i := by
  unfold globalNames at hnames
  unfold typeNames at htypes
  unfold moduleValue
  cases exposure : m.exposure with
  | globalTable =>
    simp only [exposure, List.mem_singleton, forall_eq] at hnames
    exact h.global hnames
  | objectType =>
    simp only [exposure, List.mem_singleton, forall_eq] at htypes
    simp only [h.types _ htypes]

theorem moduleFree_iff : ModuleFree m i ↔ moduleValue m i = .nil := by
  unfold ModuleFree moduleValue
  cases m.exposure with
  | globalTable => exact Iff.rfl
  | objectType => cases i.classes.get? m.name <;> simp

/-- A module stays in its place. -/
theorem Placed.grows {id : TableId} (placed : Placed m i id)
    (h : i.Grows names types i') (hnames : ∀ n ∈ globalNames m, n ∉ names)
    (htypes : ∀ n ∈ typeNames m, n ∉ types) : Placed m i' id := by
  have htable := h.table id placed.present placed.apart
  constructor
  · exact Nat.lt_of_lt_of_le placed.present h.tables
  · rw [h.globals]
    exact placed.apart
  · rw [moduleValue_grows h hnames htypes, placed.found]
  · rw [htable, placed.plain]
  · intro k β hβ hnot
    obtain ⟨n, hlt, hfield, hcallable⟩ := placed.method k β hβ hnot
    exact ⟨n, Nat.lt_of_lt_of_le hlt h.functions, by rw [htable, hfield],
      by rw [h.callable n hlt, hcallable]⟩
  · rw [htable]
    exact placed.own
  · rw [htable]
    exact placed.absent

/-- What a module needs. -/
def freeModule (m : Module F) (b : Binder F) : Prop :=
  m.name ∉ b.bound ∧ ModuleFree m b.interpreter

/-- Another module does not get in the way. -/
theorem freeModule_addModule {m' : Module F}
    (h : b.interpreter.HasGlobals) :
    freeModule m' (addModule m b) ↔ m'.name ≠ m.name ∧ freeModule m' b := by
  unfold freeModule addModule
  rw [List.mem_cons, not_or, and_assoc]
  refine and_congr_right fun hne => and_congr_right fun _ => ?_
  rw [moduleFree_iff, moduleFree_iff, moduleValue_grows (grows_withModule m h)
    (fun n hn hmem => hne ((mem_globalNames hn).symm.trans
      (mem_globalNames hmem)))
    (fun n hn hmem => hne ((mem_typeNames hn).symm.trans
      (mem_typeNames hmem)))]

theorem grows_addModule (m : Module F) (b : Binder F)
    (h : b.interpreter.HasGlobals) :
    b.interpreter.Grows (globalNames m) (typeNames m)
      (addModule m b).interpreter := grows_withModule m h

/-- The table of a module is in its place, and is one of the tables from
`base` on. -/
def ModulePlaced (base : TableId) (m : Module F) (i : Interpreter F) : Prop :=
  ∃ id, base ≤ id ∧ Placed m i id

/-- All modules of a row are in their places in the end, each with a new
table. -/
theorem placed_modules {ms : List (Module F)}
    (h : b.interpreter.HasGlobals) (nodup : (ms.map Module.name).Nodup) :
    ∀ m ∈ ms, ModulePlaced b.interpreter.heap.tables.size m
      (addRow addModule ms b).interpreter := by
  refine (placed_row (P := fun i => i.HasGlobals
      ∧ b.interpreter.heap.tables.size ≤ i.heap.tables.size)
    (fun m b' hb => ?_)
    (fun m b' hb => ⟨_, hb.2, placed_withModule m hb.1⟩) ?_ ms b
    ⟨h, Nat.le_refl _⟩ nodup).2
  · have hgrows := grows_addModule m b' hb.1
    exact ⟨hgrows.hasGlobals hb.1, Nat.le_trans hb.2 hgrows.tables⟩
  · rintro m m' b' hb hne ⟨id, hbase, placed⟩
    exact ⟨id, hbase, placed.grows (grows_withModule m hb.1)
      (fun n hn hmem => hne ((mem_globalNames hn).symm.trans
        (mem_globalNames hmem)))
      (fun n hn hmem => hne ((mem_typeNames hn).symm.trans
        (mem_typeNames hmem)))⟩

/-! ## Factories in a row -/

/-- What a factory needs. -/
def freeFactory (f : Factory F) (b : Binder F) : Prop :=
  b.interpreter.global f.name = .nil

/-- The binder after a factory. -/
def addFactory (f : Factory F) (b : Binder F) : Binder F :=
  { b with interpreter := withFactory f b.interpreter }

/-- A factory is there, as a global function. -/
def FactoryPlaced (f : Factory F) (i : Interpreter F) : Prop :=
  ∃ n, n < i.functions.size ∧ i.global f.name = .func n
    ∧ i.callable n = .plain f.function

theorem grows_withFactory (f : Factory F) (h : i.HasGlobals) :
    i.Grows [f.name] [] (withFactory f i) := by
  have hadd := Interpreter.grows_addFunction i (.plain f.function)
  exact hadd.trans (Interpreter.grows_setGlobal _ f.name nofun
    (hadd.hasGlobals h))

theorem placed_withFactory (f : Factory F) (h : i.HasGlobals) :
    FactoryPlaced f (withFactory f i) := by
  have hadd := Interpreter.grows_addFunction i (.plain f.function)
  refine ⟨i.functions.size, ?_, ?_, Interpreter.callable_addFunction i _⟩
  · simp [withFactory, Interpreter.setGlobal, Interpreter.modifyTable,
      Interpreter.addFunction]
  · exact Interpreter.global_setGlobal _ f.name (by simp) (hadd.hasGlobals h)

theorem FactoryPlaced.grows {f : Factory F} (placed : FactoryPlaced f i)
    (h : i.Grows names types i') (hname : f.name ∉ names) :
    FactoryPlaced f i' := by
  obtain ⟨n, hlt, hglobal, hcallable⟩ := placed
  exact ⟨n, Nat.lt_of_lt_of_le hlt h.functions,
    by rw [h.global hname, hglobal], by rw [h.callable n hlt, hcallable]⟩

/-- Another factory does not get in the way, unless its name is the same. -/
theorem freeFactory_addFactory {f f' : Factory F}
    (h : b.interpreter.HasGlobals) :
    freeFactory f' (addFactory f b) ↔ f'.name ≠ f.name ∧ freeFactory f' b := by
  unfold freeFactory
  by_cases hname : f'.name = f.name
  · obtain ⟨n, -, hglobal, -⟩ := placed_withFactory f h
    simp [hname, addFactory, hglobal]
  · have hglobal := (grows_withFactory f h).global
      (show f'.name ∉ [f.name] by simpa using hname)
    simp [hname, addFactory, hglobal]

theorem grows_addFactory (f : Factory F) (b : Binder F)
    (h : b.interpreter.HasGlobals) :
    b.interpreter.Grows [f.name] [] (addFactory f b).interpreter :=
  grows_withFactory f h

/-- All factories of a row are there in the end. -/
theorem placed_factories {fs : List (Factory F)}
    (h : b.interpreter.HasGlobals) (nodup : (fs.map Factory.name).Nodup) :
    ∀ f ∈ fs, FactoryPlaced f (addRow addFactory fs b).interpreter := by
  refine (placed_row (P := Interpreter.HasGlobals)
    (fun f b hb => (grows_addFactory f b hb).hasGlobals hb)
    (fun f b hb => placed_withFactory f hb) ?_ fs b h nodup).2
  intro f f' b hb hne placed
  exact placed.grows (grows_withFactory f hb) (by simpa using hne)

/-! ## Checking -/

theorem verifyFunction_guarded (v : Value) (name : String) :
    Guarded (F := F) (verifyFunction v name) (fun _ => ∃ n, v = .func n)
      fun b => b := by
  constructor
  · rintro b ⟨n, rfl⟩
    rfl
  · intro b hnot
    cases v with
    | func n => exact absurd ⟨n, rfl⟩ hnot
    | nil | bool | int | float | str | table | handle | null =>
      exact ⟨_, _, rfl⟩

/-- A check that depends on the interpreter alone. -/
theorem guarded_current {part : Interpreter F → Binding.Step F Unit}
    {free : Interpreter F → Prop}
    (h : ∀ i, Guarded (part i) (fun _ => free i) fun b => b) :
    Guarded (do part (← currentInterpreter)) (fun b => free b.interpreter)
      fun b => b :=
  ⟨fun b hfree => (h b.interpreter).done b hfree,
    fun b hnot => (h b.interpreter).refused b hnot⟩

theorem Guarded.check {α : Type} {part : α → Binding.Step F Unit}
    {free : α → Binder F → Prop}
    (h : ∀ x, Guarded (part x) (free x) fun b => b) (row : List α) :
    Guarded (row.forM part) (fun b => ∀ x ∈ row, free x b) fun b => b :=
  (Guarded.row h row).congr (fun _ => freeRow_check.symm)
    fun b => (addRow_check row b).symm

/-- All methods of a module are functions. -/
def Verified (m : Module F) (i : Interpreter F) : Prop :=
  ∃ id, moduleValue m i = .table id
    ∧ ∀ k ∈ m.methods.keys, ∃ n, i.index id (.ofText k) = .func n

theorem verifyModule_guarded (m : Module F) :
    Guarded (verifyModule m) (fun b => Verified m b.interpreter)
      fun b => b := by
  refine guarded_current fun i => ?_
  unfold Verified
  cases hvalue : moduleValue m i with
  | table id =>
    refine (Guarded.check (fun k => verifyFunction_guarded _ _)
      m.methods.keys).congr (fun b => ?_) fun b => rfl
    simp
  | nil | bool | int | float | str | func | handle | null =>
    refine ⟨fun b hfree => ?_, fun b _ => ⟨_, _, rfl⟩⟩
    obtain ⟨id, hid, -⟩ := hfree
    cases hid

theorem verifyFactory_guarded (f : Factory F) :
    Guarded (verifyFactory f)
      (fun b => ∃ n, b.interpreter.global f.name = .func n) fun b => b :=
  guarded_current fun _ => verifyFunction_guarded _ _

theorem index_of_plain {id : TableId} (plain : (i.table id).mark = .plain)
    (key : Value) : i.index id key = (i.table id).get key := by
  unfold Interpreter.index
  dsimp only
  rw [plain]
  cases (i.table id).get key <;> rfl

/-- A module in its place passes the check unless it declares a field that
the class table has for itself. -/
theorem verified_iff {id : TableId} (placed : Placed m i id) :
    Verified m i ↔ ∀ k, IsOwnField m k → m.method? k = none := by
  have hindex := fun k : String =>
    index_of_plain placed.plain (Value.ofText k)
  constructor
  · rintro ⟨id', hid', hall⟩ k hown
    rw [placed.found] at hid'
    obtain rfl := Value.table.inj hid'
    cases hk : m.method? k with
    | none => rfl
    | some β =>
      obtain ⟨n, hn⟩ := hall k (m.methods.mem_keys_iff.mpr
        (Option.isSome_iff_exists.mpr ⟨β, hk⟩))
      rw [hindex] at hn
      exact absurd hn (placed.own_ne_func hown n)
  · intro hnone
    refine ⟨id, placed.found, fun k hk => ?_⟩
    obtain ⟨β, hβ⟩ := Option.isSome_iff_exists.mp
      (m.methods.mem_keys_iff.mp hk)
    have hnot : ¬ IsOwnField m k := fun hown => by
      have hβ' : m.method? k = some β := hβ
      rw [hnone k hown] at hβ'
      cases hβ'
    obtain ⟨n, -, hfield, -⟩ := placed.method k β hβ hnot
    exact ⟨n, by rw [hindex, ← hfield]; rfl⟩

/-! ## The whole registry -/

/-- The globals that a registry takes. -/
def registryNames (r : Registry F) : List String :=
  r.modules.flatMap globalNames ++ r.factories.map Factory.name

/-- The object types that a registry takes. -/
def registryTypes (r : Registry F) : List String :=
  r.modules.flatMap typeNames

/-- Nothing in a registry is refused. -/
structure Bindable (r : Registry F) (i : Interpreter F) : Prop where
  modules : (r.modules.map Module.name).Nodup
  factories : (r.factories.map Factory.name).Nodup
  apart : ∀ f ∈ r.factories, f.name ∉ r.modules.flatMap globalNames
  globals : ∀ name ∈ registryNames r, i.global name = .nil
  types : ∀ name ∈ registryTypes r, i.classes.get? name = none
  fields : ∀ m ∈ r.modules, m.exposure = .objectType →
    m.method? indexField = none ∧ m.method? nameField = none

/-- The binder after everything in a registry. -/
def addRegistry (r : Registry F) (b : Binder F) : Binder F :=
  addRow addFactory r.factories (addRow addModule r.modules b)

/-- What binding and checking a registry needs, in turn. -/
def freeRegistry (r : Registry F) (b : Binder F) : Prop :=
  FreeRow freeModule addModule r.modules b
    ∧ FreeRow freeFactory addFactory r.factories
        (addRow addModule r.modules b)
    ∧ (∀ m ∈ r.modules, Verified m (addRegistry r b).interpreter)
    ∧ ∀ f ∈ r.factories,
        ∃ n, (addRegistry r b).interpreter.global f.name = .func n

theorem bindRegistry_guarded (r : Registry F) :
    Guarded (bindRegistry r) (freeRegistry r) (addRegistry r) :=
  (Guarded.row bind_guarded r.modules).seq
    ((Guarded.row bindFactory_guarded r.factories).seq
      ((Guarded.check verifyModule_guarded r.modules).seq
        (Guarded.check verifyFactory_guarded r.factories)))

theorem grows_addRegistry (r : Registry F)
    (h : b.interpreter.HasGlobals) :
    b.interpreter.Grows (registryNames r) (registryTypes r)
      (addRegistry r b).interpreter := by
  have hmodules := grows_row grows_addModule r.modules b h
  have hfactories := grows_row grows_addFactory r.factories
    (addRow addModule r.modules b) (hmodules.hasGlobals h)
  have hall := hmodules.trans hfactories
  have hnil : r.factories.flatMap (fun _ => ([] : List String)) = [] := by
    simp
  rw [hnil, List.append_nil] at hall
  rw [registryNames, List.map_eq_flatMap]
  exact hall

theorem moduleFree_names : ModuleFree m i
    ↔ (∀ n ∈ globalNames m, i.global n = .nil)
      ∧ ∀ n ∈ typeNames m, i.classes.get? n = none := by
  unfold ModuleFree globalNames typeNames
  cases m.exposure <;> simp

theorem ownFields_iff : (∀ k, IsOwnField m k → m.method? k = none)
    ↔ (m.exposure = .objectType →
      m.method? indexField = none ∧ m.method? nameField = none) := by
  constructor
  · intro h hobject
    exact ⟨h _ ⟨hobject, .inl rfl⟩, h _ ⟨hobject, .inr rfl⟩⟩
  · rintro h k ⟨hobject, rfl | rfl⟩
    · exact (h hobject).1
    · exact (h hobject).2

/-- The name of a namespace that is in its place is taken. -/
theorem ModulePlaced.taken {base : TableId} (placed : ModulePlaced base m i)
    {n : String} (h : n ∈ globalNames m) : i.global n ≠ .nil := by
  obtain ⟨id, -, placed⟩ := placed
  rw [placed.global h]
  exact nofun

/-- What the modules of a registry need of a new binder. -/
theorem free_modules (r : Registry F) (h : i.HasGlobals) :
    FreeRow freeModule addModule r.modules { interpreter := i }
      ↔ (r.modules.map Module.name).Nodup
        ∧ (∀ n ∈ r.modules.flatMap globalNames, i.global n = .nil)
        ∧ ∀ n ∈ registryTypes r, i.classes.get? n = none := by
  rw [freeRow_iff grows_addModule
    (fun m m' b hb => freeModule_addModule hb) r.modules _ h]
  refine and_congr_right fun _ => ?_
  simp only [freeModule, List.not_mem_nil, not_false_eq_true, true_and,
    moduleFree_names, registryTypes, List.mem_flatMap]
  constructor
  · intro hfree
    exact ⟨fun n ⟨m, hm, hn⟩ => (hfree m hm).1 n hn,
      fun n ⟨m, hm, hn⟩ => (hfree m hm).2 n hn⟩
  · intro hfree m hm
    exact ⟨fun n hn => hfree.1 n ⟨m, hm, hn⟩,
      fun n hn => hfree.2 n ⟨m, hm, hn⟩⟩

/-- What its factories need after the modules. -/
theorem free_factories (r : Registry F) (h : i.HasGlobals)
    (nodup : (r.modules.map Module.name).Nodup) :
    FreeRow freeFactory addFactory r.factories
        (addRow addModule r.modules { interpreter := i })
      ↔ (r.factories.map Factory.name).Nodup
        ∧ ∀ f ∈ r.factories, f.name ∉ r.modules.flatMap globalNames
          ∧ i.global f.name = .nil := by
  have hgrows := grows_row grows_addModule r.modules { interpreter := i } h
  rw [freeRow_iff grows_addFactory
    (fun f f' b hb => freeFactory_addFactory hb) r.factories _
    (hgrows.hasGlobals h)]
  refine and_congr_right fun _ => forall₂_congr fun f _ => ?_
  by_cases hname : f.name ∈ r.modules.flatMap globalNames
  · obtain ⟨m, hm, hn⟩ := List.mem_flatMap.mp hname
    have htaken := (placed_modules (b := { interpreter := i }) h nodup m
      hm).taken hn
    simp [freeFactory, hname, htaken]
  · simp only [freeFactory, hname, not_false_eq_true, true_and]
    rw [hgrows.global hname]

/-- Modules stay in their places while factories are bound under other
names. -/
theorem placed_addRegistry (r : Registry F) (h : i.HasGlobals)
    (nodup : (r.modules.map Module.name).Nodup)
    (apart : ∀ f ∈ r.factories, f.name ∉ r.modules.flatMap globalNames) :
    ∀ m ∈ r.modules,
      ModulePlaced i.heap.tables.size m
        (addRegistry r { interpreter := i }).interpreter := by
  intro m hm
  have hgrows := grows_row grows_addModule r.modules { interpreter := i } h
  have hfactories := grows_row grows_addFactory r.factories _
    (hgrows.hasGlobals h)
  obtain ⟨id, hbase, placed⟩ := placed_modules (b := { interpreter := i }) h
    nodup m hm
  refine ⟨id, hbase, placed.grows hfactories (fun n hn hmem => ?_) (by simp)⟩
  obtain ⟨f, hf, hn'⟩ := List.mem_flatMap.mp hmem
  obtain rfl := List.mem_singleton.mp hn'
  exact apart f hf (List.mem_flatMap.mpr ⟨m, hm, hn⟩)

/-- **Nothing is refused exactly when the registry is bindable.** -/
theorem freeRegistry_iff (r : Registry F) (h : i.HasGlobals) :
    freeRegistry r { interpreter := i } ↔ Bindable r i := by
  have hgrows := grows_row grows_addModule r.modules { interpreter := i } h
  constructor
  · rintro ⟨hmodules, hfactories, hverified, -⟩
    obtain ⟨hnodup, hglobals, htypes⟩ := (free_modules r h).mp hmodules
    obtain ⟨hdistinct, hfree⟩ := (free_factories r h hnodup).mp hfactories
    have hplaced := placed_addRegistry r h hnodup fun f hf => (hfree f hf).1
    refine ⟨hnodup, hdistinct, fun f hf => (hfree f hf).1, ?_, htypes, ?_⟩
    · intro name hname
      rcases List.mem_append.mp hname with hname | hname
      · exact hglobals name hname
      · obtain ⟨f, hf, rfl⟩ := List.mem_map.mp hname
        exact (hfree f hf).2
    · intro m hm
      obtain ⟨id, -, placed⟩ := hplaced m hm
      exact ownFields_iff.mp ((verified_iff placed).mp (hverified m hm))
  · intro bindable
    have hmodules := (free_modules r h).mpr ⟨bindable.modules,
      fun n hn => bindable.globals n (List.mem_append_left _ hn),
      bindable.types⟩
    have hfactories := (free_factories r h bindable.modules).mpr
      ⟨bindable.factories, fun f hf => ⟨bindable.apart f hf,
        bindable.globals _ (List.mem_append_right _
          (List.mem_map_of_mem hf))⟩⟩
    have hplaced := placed_addRegistry r h bindable.modules bindable.apart
    refine ⟨hmodules, hfactories, fun m hm => ?_, fun f hf => ?_⟩
    · obtain ⟨id, -, placed⟩ := hplaced m hm
      exact (verified_iff placed).mpr
        (ownFields_iff.mpr (bindable.fields m hm))
    · obtain ⟨n, -, hglobal, -⟩ := placed_factories (hgrows.hasGlobals h)
        bindable.factories f hf
      exact ⟨n, hglobal⟩

/-! ## What a registry offers then -/

/-- The function that a script finds under a method of a module. -/
def method? (m : Module F) (k : String) (i : Interpreter F) :
    Option (Callable F) :=
  match m.exposure with
  | .globalTable => i.fieldCallable? (i.global m.name) k
  | .objectType => i.classCallable? m.name k

/-- The arguments that reach a function of a module. -/
def received (m : Module F) (i : Interpreter F) (args : List Value) :
    List Value :=
  match m.exposure with
  | .globalTable => i.stripNamespace m.name args
  | .objectType => args

/-- What a call of a method does: a native one runs its function, and one
that is kept free raises an error that names it. -/
def Answers [Dispatch F] (m : Module F) (k : String) (c : Callable F) :
    Binding F → Prop
  | .native f => ∀ args (w : World F),
    (Action.invoke c args).run.run w
      = (Dispatch.run f (received m w.interpreter args)).run.run w
  | .reserved => ∀ args (w : World F), ∃ e,
    (Action.invoke c args).run.run w = (.error (.raised e), w)
      ∧ e.message = m.name ++ "." ++ k ++ " is not implemented"

/-- Everything in a registry can be called and does what it is there
for. -/
structure Offers [Dispatch F] (r : Registry F) (i : Interpreter F) :
    Prop where
  method : ∀ m ∈ r.modules, ∀ k β, m.method? k = some β →
    ∃ c, method? m k i = some c ∧ Answers m k c β
  factory : ∀ f ∈ r.factories, ∃ c,
    i.callable? (i.global f.name) = some c
      ∧ ∀ args, Action.invoke c args = Dispatch.run f.function args

/-- What was there before is as it was. -/
structure Untouched (i i' : Interpreter F) : Prop where
  globals : i'.globals = i.globals
  entry : ∀ key, (i.table i.globals).get key ≠ .nil →
    (i'.table i.globals).get key = (i.table i.globals).get key
  type : ∀ name id, i.classes.get? name = some id →
    i'.classes.get? name = some id
  table : ∀ id, id < i.heap.tables.size → id ≠ i.globals →
    i'.table id = i.table id
  callable : ∀ id, id < i.functions.size → i'.callable id = i.callable id
  handles : i'.handles = i.handles
  host : i'.host = i.host
  exchange : i'.exchange = i.exchange

theorem answers_callable [Dispatch F] (m : Module F) (k : String)
    (β : Binding F) : Answers m k (callable m k β) β := by
  cases β with
  | native f =>
    intro args w
    unfold callable received
    cases m.exposure <;> rfl
  | reserved =>
    intro args w
    exact ⟨.complaint (.reserved (m.name ++ "." ++ k)), rfl, rfl⟩

/-- A module in its place offers its methods. -/
theorem Placed.method? {id : TableId} (placed : Placed m i id) {k : String}
    {β : Binding F} (h : m.method? k = some β) (hown : ¬ IsOwnField m k) :
    method? m k i = some (Binder.callable m k β) := by
  obtain ⟨n, -, hfield, hcallable⟩ := placed.method k β h hown
  have hindex : i.index id (.ofText k) = .func n := by
    rw [index_of_plain placed.plain]
    exact hfield
  have hcall : i.fieldCallable? (.table id) k = some (callable m k β) := by
    simp only [Interpreter.fieldCallable?, hindex, Interpreter.callable?,
      hcallable]
  unfold Binder.method?
  cases exposure : m.exposure with
  | globalTable =>
    have hglobal := placed.global (n := m.name)
      (by simp [globalNames, exposure])
    show i.fieldCallable? (i.global m.name) k = _
    rw [hglobal, hcall]
  | objectType =>
    have htype := placed.type (n := m.name) (by simp [typeNames, exposure])
    show i.classCallable? m.name k = _
    rw [Interpreter.classCallable?, htype]
    exact hcall

theorem offers [Dispatch F] (r : Registry F)
    {base : TableId} (modules : ∀ m ∈ r.modules, ModulePlaced base m i)
    (factories : ∀ f ∈ r.factories, FactoryPlaced f i)
    (fields : ∀ m ∈ r.modules, ∀ k, IsOwnField m k → m.method? k = none) :
    Offers r i := by
  constructor
  · intro m hm k β hβ
    obtain ⟨id, -, placed⟩ := modules m hm
    refine ⟨_, placed.method? hβ fun hown => ?_, answers_callable m k β⟩
    rw [fields m hm k hown] at hβ
    cases hβ
  · intro f hf
    obtain ⟨n, -, hglobal, hcallable⟩ := factories f hf
    refine ⟨.plain f.function, ?_, fun _ => rfl⟩
    rw [hglobal, Interpreter.callable?, hcallable]

/-- Growth under names that were free leaves everything older. -/
theorem untouched (h : i.Grows names types i')
    (globals : ∀ name ∈ names, i.global name = .nil)
    (free : ∀ name ∈ types, i.classes.get? name = none) :
    Untouched i i' where
  globals := h.globals
  entry key hkey := by
    refine h.entry key fun name hname heq => hkey ?_
    have hnil := globals name hname
    rw [Interpreter.global, Table.field, Table.get, Value.asKey_ofText]
      at hnil
    rw [Table.get, heq, hnil]
  type name id hid := by
    rw [h.types name fun hname => ?_, hid]
    rw [free name hname] at hid
    cases hid
  table := h.table
  callable := h.callable
  handles := h.handles
  host := h.host
  exchange := h.exchange

/-- **Binding a registry** into an interpreter whose globals no class table
answers for, with a new binder: it succeeds exactly when the registry is
bindable there. Everything in the registry can be called then and does what
it is there for, and whatever was there before is as it was. -/
theorem bindRegistry_iff [Dispatch F] (r : Registry F) (i : Interpreter F)
    (h : i.HasGlobals) :
    (((bindRegistry r).run.run { interpreter := i }).1 = .ok ()
        ↔ Bindable r i)
      ∧ (((bindRegistry r).run.run { interpreter := i }).1 = .ok () →
        Offers r ((bindRegistry r).run.run { interpreter := i }).2.interpreter
        ∧ Untouched i
          ((bindRegistry r).run.run { interpreter := i }).2.interpreter) := by
  have hiff := (bindRegistry_guarded r).ok_iff { interpreter := i }
  rw [freeRegistry_iff r h] at hiff
  refine ⟨hiff, fun hok => ?_⟩
  have bindable := hiff.mp hok
  rw [(bindRegistry_guarded r).done _ ((freeRegistry_iff r h).mpr bindable)]
  have hgrows := grows_row grows_addModule r.modules { interpreter := i } h
  constructor
  · exact offers r
      (placed_addRegistry r h bindable.modules bindable.apart)
      (placed_factories (hgrows.hasGlobals h) bindable.factories)
      fun m hm => ownFields_iff.mpr (bindable.fields m hm)
  · exact untouched (grows_addRegistry r (b := { interpreter := i }) h)
      bindable.globals bindable.types

instance : Dispatch SampleFunction where
  run := SampleFunction.run

/-- A namespace with a name that is kept free, an object type, and a factory
for it. -/
def lamps : Registry SampleFunction where
  modules :=
    [(Module.ofFunctions "sample" [("echo", .echo)]).reserve "later",
      Module.ofMethods "lamp" [("isLit", .isLit), ("toggle", .toggle)]]
  factories := [{ name := "Lamp", function := .newLamp "lamp" }]

theorem bindRegistry_lamps :
    (Interpreter.fresh none : Interpreter SampleFunction).HasGlobals
      ∧ ((bindRegistry lamps).run.run { interpreter := .fresh none }).1
        = .ok ()
      ∧ Offers lamps ((bindRegistry lamps).run.run
        { interpreter := .fresh none }).2.interpreter := by
  have h := Interpreter.hasGlobals_fresh (F := SampleFunction) none
  have hok : ((bindRegistry lamps).run.run
      { interpreter := .fresh none }).1 = .ok () := by decide +kernel
  exact ⟨h, hok, ((bindRegistry_iff lamps _ h).2 hok).1⟩

end Binder

end ScriptHost
