/-
ScriptHost.Proofs.Script.Binder — binding one module or factory.

* A part of binding is `Guarded`: it is refused unless something is free,
  and else does one thing. Guarded parts follow each other (`Guarded.seq`,
  `Guarded.row`).
* In a row of parts that each need a name, everything is free for all of
  them when the names differ and are free before the first (`freeRow_iff`).
  What each has placed is there after the last (`placed_row`).
* `bind_guarded` and `bindFactory_guarded` say which parts binding has, and
  `placed_withModule` what a module leaves: a table of its functions, where
  the module is looked for.
-/
import ScriptHost.Capability.Sample
import ScriptHost.Proofs.Script.Action
import ScriptHost.Proofs.Script.Interpreter
import ScriptHost.Script.Binder
import ScriptHost.Script.Call

namespace ScriptHost

namespace Binder

variable {F α : Type}

/-! ## Parts that are done or refused -/

/-- The part is done where `free` holds and does `add` then; elsewhere it is
refused. -/
structure Guarded (part : Binding.Step F Unit) (free : Binder F → Prop)
    (add : Binder F → Binder F) : Prop where
  done : ∀ b, free b → part.run.run b = (.ok (), add b)
  refused : ∀ b, ¬ free b → ∃ e b', part.run.run b = (.error e, b')

theorem Guarded.ok_iff {part : Binding.Step F Unit} {free : Binder F → Prop}
    {add : Binder F → Binder F} (h : Guarded part free add) (b : Binder F) :
    (part.run.run b).1 = .ok () ↔ free b := by
  constructor
  · intro hok
    by_contra hnot
    obtain ⟨e, b', hrun⟩ := h.refused b hnot
    rw [hrun] at hok
    cases hok
  · intro hfree
    rw [h.done b hfree]

theorem Guarded.seq {part part' : Binding.Step F Unit}
    {free free' : Binder F → Prop} {add add' : Binder F → Binder F}
    (h : Guarded part free add) (h' : Guarded part' free' add') :
    Guarded (do part; part') (fun b => free b ∧ free' (add b))
      (fun b => add' (add b)) := by
  constructor
  · rintro b ⟨hfree, hfree'⟩
    rw [run_bind, h.done b hfree]
    exact h'.done _ hfree'
  · intro b hnot
    rw [run_bind]
    by_cases hfree : free b
    · rw [h.done b hfree]
      exact h'.refused _ fun hfree' => hnot ⟨hfree, hfree'⟩
    · obtain ⟨e, b', hrun⟩ := h.refused b hfree
      exact ⟨e, b', by rw [hrun]⟩

theorem Guarded.congr {part : Binding.Step F Unit}
    {free free' : Binder F → Prop} {add add' : Binder F → Binder F}
    (h : Guarded part free add) (hfree : ∀ b, free' b ↔ free b)
    (hadd : ∀ b, add' b = add b) : Guarded part free' add' :=
  ⟨fun b hb => by rw [h.done b ((hfree b).mp hb), hadd],
    fun b hnot => h.refused b fun hb => hnot ((hfree b).mpr hb)⟩

theorem guarded_modify (f : Binder F → Binder F) :
    Guarded (modify f) (fun _ => True) f :=
  ⟨fun _ _ => rfl, fun _ hnot => absurd trivial hnot⟩

/-- What is taken is refused; else the part goes on. -/
theorem Guarded.unless {part : Binding.Step F Unit} {free : Binder F → Prop}
    {add : Binder F → Binder F} (h : Guarded part free add) {β : Type}
    (read : Binding.Step F β) {seen : Binder F → β}
    (hread : ∀ b, read.run.run b = (.ok (seen b), b)) (taken : β → Prop)
    [DecidablePred taken] (fault : HostFault) :
    Guarded (do if taken (← read) then fail fault else part)
      (fun b => ¬ taken (seen b) ∧ free b) add := by
  constructor
  · rintro b ⟨huntaken, hfree⟩
    rw [run_bind, hread]
    dsimp only
    rw [if_neg huntaken]
    exact h.done b hfree
  · intro b hnot
    rw [run_bind, hread]
    dsimp only
    by_cases htaken : taken (seen b)
    · rw [if_pos htaken]
      exact ⟨_, _, rfl⟩
    · rw [if_neg htaken]
      exact h.refused b fun hfree => hnot ⟨htaken, hfree⟩

/-- Each of a row of parts finds what it needs, after those before it. -/
def FreeRow (free : α → Binder F → Prop) (add : α → Binder F → Binder F) :
    List α → Binder F → Prop
  | [], _ => True
  | x :: rest, b => free x b ∧ FreeRow free add rest (add x b)

/-- Does a row of parts. -/
def addRow (add : α → Binder F → Binder F) (row : List α) (b : Binder F) :
    Binder F :=
  row.foldl (fun b x => add x b) b

theorem Guarded.row {part : α → Binding.Step F Unit}
    {free : α → Binder F → Prop} {add : α → Binder F → Binder F}
    (h : ∀ x, Guarded (part x) (free x) (add x)) (row : List α) :
    Guarded (row.forM part) (FreeRow free add row) (addRow add row) := by
  induction row with
  | nil => exact ⟨fun b _ => rfl, fun b hnot => absurd trivial hnot⟩
  | cons x rest ih => exact (h x).seq ih

/-- A row of parts that change nothing. -/
theorem freeRow_check {free : α → Binder F → Prop} {row : List α}
    {b : Binder F} :
    FreeRow free (fun _ b => b) row b ↔ ∀ x ∈ row, free x b := by
  induction row with
  | nil => simp [FreeRow]
  | cons x rest ih => rw [FreeRow, ih, List.forall_mem_cons]

theorem addRow_check (row : List α) (b : Binder F) :
    addRow (fun _ b => b) row b = b := by
  induction row with
  | nil => rfl
  | cons x rest ih => exact ih

/-! ## Rows of parts that each add something under their names -/

section Rows

variable {free : α → Binder F → Prop} {add : α → Binder F → Binder F}
  {names types : α → List String}

theorem grows_row (grows : ∀ x (b : Binder F), b.interpreter.HasGlobals →
      b.interpreter.Grows (names x) (types x) (add x b).interpreter)
    (row : List α) :
    ∀ b : Binder F, b.interpreter.HasGlobals →
      b.interpreter.Grows (row.flatMap names) (row.flatMap types)
        (addRow add row b).interpreter := by
  induction row with
  | nil => exact fun b _ => .refl _
  | cons x rest ih =>
    intro b h
    have hfirst := grows x b h
    exact hfirst.trans (ih (add x b) (hfirst.hasGlobals h))

/-- A row can be done when each part could be alone and their names are
different. -/
theorem freeRow_iff {name : α → String}
    (grows : ∀ x (b : Binder F), b.interpreter.HasGlobals →
      b.interpreter.Grows (names x) (types x) (add x b).interpreter)
    (other : ∀ x x' (b : Binder F), b.interpreter.HasGlobals →
      (free x' (add x b) ↔ name x' ≠ name x ∧ free x' b))
    (row : List α) :
    ∀ b : Binder F, b.interpreter.HasGlobals →
      (FreeRow free add row b
        ↔ (row.map name).Nodup ∧ ∀ x ∈ row, free x b) := by
  induction row with
  | nil => intro b _; simp [FreeRow]
  | cons x rest ih =>
    intro b h
    rw [FreeRow, ih (add x b) ((grows x b h).hasGlobals h), List.map_cons,
      List.nodup_cons, List.forall_mem_cons]
    constructor
    · rintro ⟨hx, hnodup, hrest⟩
      have hother := fun x' hx' => (other x x' b h).mp (hrest x' hx')
      refine ⟨⟨fun hmem => ?_, hnodup⟩, hx, fun x' hx' => (hother x' hx').2⟩
      obtain ⟨x', hx', hname⟩ := List.mem_map.mp hmem
      exact (hother x' hx').1 hname
    · rintro ⟨⟨hnew, hnodup⟩, hx, hrest⟩
      refine ⟨hx, hnodup, fun x' hx' =>
        (other x x' b h).mpr ⟨fun hname => ?_, hrest x' hx'⟩⟩
      exact hnew (List.mem_map.mpr ⟨x', hx', hname⟩)

/-- What each part of a row puts in its place is there in the end, if what
the parts need of an interpreter stays. -/
theorem placed_row {name : α → String} {placed : α → Interpreter F → Prop}
    {P : Interpreter F → Prop}
    (stays : ∀ x (b : Binder F), P b.interpreter →
      P (add x b).interpreter)
    (made : ∀ x (b : Binder F), P b.interpreter →
      placed x (add x b).interpreter)
    (kept : ∀ x x' (b : Binder F), P b.interpreter → name x' ≠ name x →
      placed x' b.interpreter → placed x' (add x b).interpreter)
    (row : List α) :
    ∀ b : Binder F, P b.interpreter → (row.map name).Nodup →
      (∀ x', (∀ x ∈ row, name x' ≠ name x) → placed x' b.interpreter →
        placed x' (addRow add row b).interpreter)
      ∧ ∀ x ∈ row, placed x (addRow add row b).interpreter := by
  induction row with
  | nil => exact fun b _ _ => ⟨fun _ _ hx' => hx', nofun⟩
  | cons x rest ih =>
    intro b h hnodup
    rw [List.map_cons, List.nodup_cons] at hnodup
    obtain ⟨hkept, hmade⟩ := ih (add x b) (stays x b h) hnodup.2
    constructor
    · intro x' hne hx'
      obtain ⟨hfirst, hrest⟩ := List.forall_mem_cons.mp hne
      exact hkept x' hrest (kept x x' b h hfirst hx')
    · rw [List.forall_mem_cons]
      refine ⟨hkept x (fun x' hx' hname => ?_) (made x b h), hmade⟩
      exact hnodup.1 (List.mem_map.mpr ⟨x', hx', hname.symm⟩)

end Rows

/-! ## The functions of a module -/

/-- What making the functions of a module yields: `entries` lists them by
name, and each is what its binding says. -/
structure MakesEntries (m : Module F) (bindings : List (String × Binding F))
    (i i' : Interpreter F) (entries : List (Value × Value)) : Prop where
  grows : i.Grows [] [] i'
  heap : i'.heap = i.heap
  keys : entries.map Prod.fst = (bindings.map Prod.fst).map .ofText
  values : ∀ p ∈ entries, p.2.isNil = false
  made : ∀ k β, (k, β) ∈ bindings → ∃ n, (.ofText k, .func n) ∈ entries
    ∧ n < i'.functions.size ∧ i'.callable n = callable m k β

/-- Makes one more function of a module, as `methodEntries` does. -/
def addEntry (m : Module F) :
    List (Value × Value) × Interpreter F → String × Binding F →
      List (Value × Value) × Interpreter F :=
  fun (entries, i) (method, binding) =>
    let (f, i) := i.addFunction (callable m method binding)
    (entries ++ [(.ofText method, f)], i)

theorem makesEntries_foldl (m : Module F)
    (bindings : List (String × Binding F)) :
    ∀ (before : List (Value × Value)) (i : Interpreter F),
      ∃ entries, (bindings.foldl (addEntry m) (before, i)).1
          = before ++ entries
        ∧ MakesEntries m bindings i
          (bindings.foldl (addEntry m) (before, i)).2 entries := by
  induction bindings with
  | nil =>
    intro before i
    exact ⟨[], by simp, .refl i, rfl, rfl, by simp, by simp⟩
  | cons b rest ih =>
    intro before i
    obtain ⟨k, β⟩ := b
    obtain ⟨entries, hentries, made⟩ :=
      ih (before ++ [(.ofText k, .func i.functions.size)])
        (i.addFunction (callable m k β)).2
    refine ⟨(.ofText k, .func i.functions.size) :: entries, ?_, ?_⟩
    · rw [List.foldl_cons]
      exact hentries.trans (by simp)
    · have hfirst : i.functions.size
          < (i.addFunction (callable m k β)).2.functions.size := by
        simp [Interpreter.addFunction]
      constructor
      · exact (Interpreter.grows_addFunction i _).trans made.grows
      · exact made.heap
      · rw [List.map_cons, List.map_cons, List.map_cons, made.keys]
      · exact List.forall_mem_cons.mpr ⟨rfl, made.values⟩
      · intro k' β' hmem
        rcases List.mem_cons.mp hmem with heq | hmem
        · obtain ⟨rfl, rfl⟩ := Prod.mk.inj heq
          refine ⟨_, List.mem_cons_self,
            Nat.lt_of_lt_of_le hfirst made.grows.functions, ?_⟩
          rw [List.foldl_cons]
          exact (made.grows.callable _ hfirst).trans
            (Interpreter.callable_addFunction i _)
        · obtain ⟨n, hn, hlt, hcallable⟩ := made.made k' β' hmem
          exact ⟨n, List.mem_cons_of_mem _ hn, hlt, hcallable⟩

theorem makesEntries (m : Module F) (i : Interpreter F) :
    MakesEntries m m.methods.entries i (methodEntries m i).2
      (methodEntries m i).1 := by
  obtain ⟨entries, hentries, made⟩ :=
    makesEntries_foldl m m.methods.entries [] i
  have hsame : (methodEntries m i).1 = entries := hentries
  rw [hsame]
  exact made

/-- The table of the functions of a module, before it is put anywhere. -/
def functionTable (m : Module F) (i : Interpreter F) : Table :=
  Table.ofPairs (methodEntries m i).1

theorem entries_functionTable (m : Module F) (i : Interpreter F) :
    (functionTable m i).entries = (methodEntries m i).1 := by
  have made := makesEntries m i
  have hall : (methodEntries m i).1.filter (fun p => !p.2.isNil)
      = (methodEntries m i).1 :=
    List.filter_eq_self.mpr fun p hp => by simp [made.values p hp]
  rw [functionTable, Table.entries_ofPairs
    (Table.distinct_of_texts made.keys m.methods.nodup_keys), hall]

/-- Every method has a function of its own. -/
theorem field_functionTable (m : Module F) (i : Interpreter F) {k : String}
    {β : Binding F} (h : m.method? k = some β) :
    ∃ n, (functionTable m i).field k = .func n
      ∧ n < (methodEntries m i).2.functions.size
      ∧ (methodEntries m i).2.callable n = callable m k β := by
  have made := makesEntries m i
  obtain ⟨n, hmem, hlt, hcallable⟩ := made.made k β (m.methods.mem_of_get? h)
  refine ⟨n, ?_, hlt, hcallable⟩
  have hdistinct := (Table.distinct_of_texts made.keys
    m.methods.nodup_keys).nodup
  rw [← entries_functionTable] at hmem hdistinct
  exact Table.find_of_mem hdistinct hmem

/-- Nothing else is in the table. -/
theorem get_functionTable_absent (m : Module F) (i : Interpreter F)
    {key : Value} (h : ∀ k, key.asKey = .ofText k → m.method? k = none) :
    (functionTable m i).get key = .nil := by
  refine Table.find_of_absent fun hmem => ?_
  rw [entries_functionTable, (makesEntries m i).keys] at hmem
  obtain ⟨k, hk, hkey⟩ := List.mem_map.mp hmem
  have hsome := m.methods.mem_keys_iff.mp hk
  rw [show m.methods.get? k = none from h k hkey.symm] at hsome
  cases hsome

/-! ## A module in its place -/

/-- What a class table holds beside its methods. -/
def classTable (m : Module F) (id : TableId) (t : Table) : Table :=
  (t.set (.ofText indexField) (.table id)).set (.ofText nameField)
    (.ofText m.name)

/-- The interpreter with the table of a module in it, and the identity of
that table. -/
def withTable (m : Module F) (i : Interpreter F) : Interpreter F :=
  ((methodEntries m i).2.alloc (functionTable m i)).2.setGlobal m.name
    (.table i.heap.tables.size)

def withClass (m : Module F) (i : Interpreter F) : Interpreter F :=
  ((methodEntries m i).2.alloc (classTable m i.heap.tables.size
    (functionTable m i))).2.addClass m.name i.heap.tables.size

/-- The interpreter with a module bound into it. -/
def withModule (m : Module F) (i : Interpreter F) : Interpreter F :=
  match m.exposure with
  | .globalTable => withTable m i
  | .objectType => withClass m i

/-- The interpreter with a factory bound into it. -/
def withFactory (f : Factory F) (i : Interpreter F) : Interpreter F :=
  (i.addFunction (.plain f.function)).2.setGlobal f.name
    (.func i.functions.size)

/-- Is the place of a module free? -/
def ModuleFree (m : Module F) (i : Interpreter F) : Prop :=
  match m.exposure with
  | .globalTable => i.global m.name = .nil
  | .objectType => i.classes.get? m.name = none

theorem heap_methodEntries (m : Module F) (i : Interpreter F) :
    (methodEntries m i).2.heap = i.heap := (makesEntries m i).heap

theorem methodTable_eq (m : Module F) (i : Interpreter F) :
    methodTable m i = (i.heap.tables.size,
      ((methodEntries m i).2.alloc (functionTable m i)).2) := by
  rw [← heap_methodEntries m i]
  rfl

/-- Writing the fields of a class table into the newest table. -/
theorem modify_newest (m : Module F) (i : Interpreter F) :
    (methodTable m i).2.modifyTable (methodTable m i).1
        (classTable m (methodTable m i).1)
      = ((methodEntries m i).2.alloc (classTable m i.heap.tables.size
        (functionTable m i))).2 := by
  have hheap := Heap.modify_alloc (methodEntries m i).2.heap
    (functionTable m i) (classTable m i.heap.tables.size)
  rw [heap_methodEntries] at hheap
  rw [methodTable_eq]
  simp only [Interpreter.modifyTable, Interpreter.alloc, heap_methodEntries]
  rw [hheap]

theorem bindTable_guarded (m : Module F) :
    Guarded (bindTable m) (fun b => b.interpreter.global m.name = .nil)
      fun b => { b with interpreter := withTable m b.interpreter } := by
  refine ((guarded_modify _).unless (hasGlobal m.name) (fun _ => rfl)
    (· = true) (.collision m.name)).congr (fun b => ?_) fun b => ?_
  · simp
  · dsimp only
    rw [methodTable_eq]
    rfl

theorem bindClass_guarded (m : Module F) :
    Guarded (bindClass m)
      (fun b => b.interpreter.classes.get? m.name = none)
      fun b => { b with interpreter := withClass m b.interpreter } := by
  refine ((guarded_modify _).unless currentInterpreter (fun _ => rfl)
    (fun i => (i.classes.get? m.name).isSome = true)
    (.collision (classKey m.name))).congr (fun b => ?_) fun b => ?_
  · simp
  · have hid : (methodTable m b.interpreter).1
        = b.interpreter.heap.tables.size := by rw [methodTable_eq]
    rw [withClass, ← modify_newest, ← hid]
    rfl

/-- The binder after a module. -/
def addModule (m : Module F) (b : Binder F) : Binder F :=
  { interpreter := withModule m b.interpreter, bound := m.name :: b.bound }

theorem bind_guarded (m : Module F) :
    Guarded (bind m)
      (fun b => m.name ∉ b.bound ∧ ModuleFree m b.interpreter)
      (addModule m) := by
  have hbound := guarded_modify fun b : Binder F =>
    { b with bound := m.name :: b.bound }
  unfold bind ModuleFree addModule withModule
  cases m.exposure with
  | globalTable =>
    refine (((bindTable_guarded m).seq hbound).unless get (fun _ => rfl)
      (·.bound.contains m.name = true) (.collision m.name)).congr
      (fun b => ?_) fun b => rfl
    simp
  | objectType =>
    refine (((bindClass_guarded m).seq hbound).unless get (fun _ => rfl)
      (·.bound.contains m.name = true) (.collision m.name)).congr
      (fun b => ?_) fun b => rfl
    simp

theorem bindFactory_guarded (f : Factory F) :
    Guarded (bindFactory f) (fun b => b.interpreter.global f.name = .nil)
      fun b => { b with interpreter := withFactory f b.interpreter } := by
  refine ((guarded_modify _).unless (hasGlobal f.name) (fun _ => rfl)
    (· = true) (.collision f.name)).congr (fun b => ?_) fun b => ?_
  · simp
  · rfl

/-! ## What is there after a module -/

/-- The globals that a module takes. -/
def globalNames (m : Module F) : List String :=
  match m.exposure with
  | .globalTable => [m.name]
  | .objectType => []

/-- The object types that a module takes. -/
def typeNames (m : Module F) : List String :=
  match m.exposure with
  | .globalTable => []
  | .objectType => [m.name]

/-- Is it a field that every class table has for itself? -/
def IsOwnField (m : Module F) (k : String) : Prop :=
  m.exposure = .objectType ∧ (k = indexField ∨ k = nameField)

/-- What a class table has in a field of its own. -/
def ownField (m : Module F) (id : TableId) (k : String) : Value :=
  if k = nameField then .ofText m.name else .table id

/-- A table holds the functions of a module and nothing else, and is found
under its name. In a class table the two fields of its own stand in place of
methods of these names. -/
structure Placed (m : Module F) (i : Interpreter F) (id : TableId) :
    Prop where
  present : id < i.heap.tables.size
  apart : id ≠ i.globals
  found : moduleValue m i = .table id
  plain : (i.table id).mark = .plain
  method : ∀ k β, m.method? k = some β → ¬ IsOwnField m k →
    ∃ n, n < i.functions.size ∧ (i.table id).field k = .func n
      ∧ i.callable n = callable m k β
  own : ∀ k, IsOwnField m k → (i.table id).field k = ownField m id k
  absent : ∀ key, (∀ k, key.asKey = .ofText k →
    m.method? k = none ∧ ¬ IsOwnField m k) → (i.table id).get key = .nil

theorem Placed.own_ne_func {m : Module F} {i : Interpreter F} {id : TableId}
    (placed : Placed m i id) {k : String} (h : IsOwnField m k) (n : Nat) :
    (i.table id).field k ≠ .func n := by
  rw [placed.own k h, ownField]
  split <;> exact nofun

/-- The interpreter with a new table and the functions of a module. -/
def withNewest (m : Module F) (t : Table) (i : Interpreter F) :
    Interpreter F :=
  ((methodEntries m i).2.alloc t).2

theorem grows_withNewest (m : Module F) (t : Table) {i : Interpreter F}
    (h : i.HasGlobals) : i.Grows [] [] (withNewest m t i) :=
  (makesEntries m i).grows.trans (Interpreter.grows_alloc _ t
    ((makesEntries m i).grows.hasGlobals h))

theorem heap_withNewest (m : Module F) (t : Table) (i : Interpreter F) :
    (withNewest m t i).heap = (i.heap.alloc t).2 := by
  rw [withNewest, Interpreter.alloc, heap_methodEntries]

theorem size_withNewest (m : Module F) (t : Table) (i : Interpreter F) :
    i.heap.tables.size < (withNewest m t i).heap.tables.size := by
  rw [heap_withNewest, Heap.size_alloc]
  exact Nat.lt_succ_self _

theorem table_withNewest (m : Module F) (t : Table) (i : Interpreter F) :
    (withNewest m t i).table i.heap.tables.size = t := by
  rw [Interpreter.table, heap_withNewest, Heap.table_alloc]

variable {m : Module F} {i i' : Interpreter F} {names types : List String}

theorem grows_withTable (h : i.HasGlobals) :
    i.Grows [m.name] [] (withTable m i) :=
  (grows_withNewest m _ h).trans (Interpreter.grows_setGlobal _ m.name
    nofun ((grows_withNewest m _ h).hasGlobals h))

theorem grows_withClass (h : i.HasGlobals) :
    i.Grows [] [m.name] (withClass m i) :=
  (grows_withNewest m _ h).trans (Interpreter.grows_addClass _ m.name _)

theorem grows_withModule (m : Module F) (h : i.HasGlobals) :
    i.Grows (globalNames m) (typeNames m) (withModule m i) := by
  unfold globalNames typeNames withModule
  cases m.exposure with
  | globalTable => exact grows_withTable h
  | objectType => exact grows_withClass h

theorem placed_withTable (h : i.HasGlobals)
    (exposure : m.exposure = .globalTable) :
    Placed m (withTable m i) i.heap.tables.size := by
  have hgrows := grows_withNewest m (functionTable m i) h
  have hglobals := hgrows.hasGlobals h
  have hsize := size_withNewest m (functionTable m i) i
  have hne : (withNewest m (functionTable m i) i).globals
      ≠ i.heap.tables.size := hgrows.globals ▸ Nat.ne_of_lt h.present
  have htable : (withTable m i).table i.heap.tables.size
      = functionTable m i := by
    have hset := Interpreter.table_setGlobal
      (withNewest m (functionTable m i) i) m.name
      (.table i.heap.tables.size) hglobals i.heap.tables.size
    rw [if_neg hne, table_withNewest] at hset
    exact hset
  constructor
  · have hset : (withNewest m (functionTable m i) i).Grows [m.name] []
        (withTable m i) := Interpreter.grows_setGlobal _ _ nofun hglobals
    exact Nat.lt_of_lt_of_le hsize hset.tables
  · exact hne.symm
  · rw [moduleValue, exposure]
    exact Interpreter.global_setGlobal _ m.name nofun hglobals
  · rw [htable]
    exact Table.mark_ofPairs _
  · intro k β hβ _
    obtain ⟨n, hfield, hlt, hcallable⟩ := field_functionTable m i hβ
    exact ⟨n, hlt, by rw [htable, hfield], hcallable⟩
  · rintro k ⟨hobject, -⟩
    rw [exposure] at hobject
    cases hobject
  · intro key hkey
    rw [htable]
    exact get_functionTable_absent m i fun k hk => (hkey k hk).1

theorem get_classTable (m : Module F) (id : TableId) (t : Table)
    (key : Value) :
    (classTable m id t).get key
      = if key.asKey = .ofText nameField then .ofText m.name
        else if key.asKey = .ofText indexField then .table id
        else t.get key := by
  have hname : Value.ofText m.name ≠ .nil := nofun
  have hindex : Value.table id ≠ .nil := nofun
  rw [classTable, Table.get_set _ (Value.isKey_ofText _) hname,
    Table.get_set _ (Value.isKey_ofText _) hindex]
  rfl

theorem field_classTable (m : Module F) (id : TableId) (t : Table)
    (k : String) :
    (classTable m id t).field k
      = if k = nameField then .ofText m.name
        else if k = indexField then .table id else t.field k := by
  rw [Table.field, get_classTable]
  simp only [Value.asKey_ofText, Value.ofText_inj]
  rfl

theorem placed_withClass (h : i.HasGlobals)
    (exposure : m.exposure = .objectType) :
    Placed m (withClass m i) i.heap.tables.size := by
  have hgrows := grows_withNewest m
    (classTable m i.heap.tables.size (functionTable m i)) h
  have htable : (withClass m i).table i.heap.tables.size
      = classTable m i.heap.tables.size (functionTable m i) :=
    table_withNewest m _ i
  constructor
  · exact size_withNewest m _ i
  · exact fun heq => Nat.ne_of_lt h.present (hgrows.globals ▸ heq).symm
  · have hget : (withClass m i).classes.get? m.name
        = some i.heap.tables.size := by
      rw [withClass, Interpreter.addClass, KeyMap.get?_insert, if_pos rfl]
    rw [moduleValue, exposure]
    simp only [hget]
  · rw [htable, classTable, Table.set_mark, Table.set_mark]
    exact Table.mark_ofPairs _
  · intro k β hβ hnot
    have hk : k ≠ indexField ∧ k ≠ nameField :=
      ⟨fun hk => hnot ⟨exposure, .inl hk⟩, fun hk => hnot ⟨exposure, .inr hk⟩⟩
    obtain ⟨n, hfield, hlt, hcallable⟩ := field_functionTable m i hβ
    refine ⟨n, hlt, ?_, hcallable⟩
    rw [htable, field_classTable, if_neg hk.2, if_neg hk.1, hfield]
  · rintro k ⟨-, rfl | rfl⟩
    · rw [htable, field_classTable, if_neg (by decide), if_pos rfl, ownField,
        if_neg (by decide)]
    · rw [htable, field_classTable, if_pos rfl, ownField, if_pos rfl]
  · intro key hkey
    have hname : key.asKey ≠ .ofText nameField := fun heq =>
      (hkey _ heq).2 ⟨exposure, .inr rfl⟩
    have hindex : key.asKey ≠ .ofText indexField := fun heq =>
      (hkey _ heq).2 ⟨exposure, .inl rfl⟩
    rw [htable, get_classTable, if_neg hname, if_neg hindex]
    exact get_functionTable_absent m i fun k hk => (hkey k hk).1

/-- A module that was bound is in its place. -/
theorem placed_withModule (m : Module F) (h : i.HasGlobals) :
    Placed m (withModule m i) i.heap.tables.size := by
  unfold withModule
  cases exposure : m.exposure with
  | globalTable => exact placed_withTable h exposure
  | objectType => exact placed_withClass h exposure

end Binder

end ScriptHost
