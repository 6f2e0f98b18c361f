/-
ScriptHost.Proofs.Script.Interpreter — an interpreter that gets more
globals, types and functions.

`Grows names types i i'` says that `i'` is `i` with new tables and
functions, in which at most the globals `names` and the object types `types`
are others than before. The growths of a row of changes add up
(`Grows.trans`). The equations say what the single changes do.
-/
import ScriptHost.Proofs.Data.KeyMap
import ScriptHost.Proofs.Script.Heap
import ScriptHost.Proofs.Script.Table
import ScriptHost.Script.Interpreter

namespace ScriptHost

namespace Interpreter

variable {F : Type}

/-- The table of the globals is there, and no class table answers for what
it lacks. -/
structure HasGlobals (i : Interpreter F) : Prop where
  present : i.globals < i.heap.tables.size
  plain : (i.table i.globals).mark = .plain

/-- Only the globals `names` and the object types `types` are others, and
all older tables and functions are as they were. -/
structure Grows (names types : List String) (i i' : Interpreter F) :
    Prop where
  globals : i'.globals = i.globals
  tables : i.heap.tables.size ≤ i'.heap.tables.size
  table : ∀ id, id < i.heap.tables.size → id ≠ i.globals →
    i'.table id = i.table id
  mark : (i'.table i.globals).mark = (i.table i.globals).mark
  entry : ∀ key : Value, (∀ name ∈ names, key.asKey ≠ .ofText name) →
    (i'.table i.globals).get key = (i.table i.globals).get key
  functions : i.functions.size ≤ i'.functions.size
  callable : ∀ id, id < i.functions.size → i'.callable id = i.callable id
  types : ∀ name, name ∉ types → i'.classes.get? name = i.classes.get? name
  handles : i'.handles = i.handles
  host : i'.host = i.host
  exchange : i'.exchange = i.exchange

variable {i i' i'' : Interpreter F} {names names' types types' : List String}

theorem Grows.refl (i : Interpreter F) : Grows [] [] i i where
  globals := rfl
  tables := Nat.le_refl _
  table _ _ _ := rfl
  mark := rfl
  entry _ _ := rfl
  functions := Nat.le_refl _
  callable _ _ := rfl
  types _ _ := rfl
  handles := rfl
  host := rfl
  exchange := rfl

theorem Grows.trans (h : Grows names types i i')
    (h' : Grows names' types' i' i'') :
    Grows (names ++ names') (types ++ types') i i'' where
  globals := h'.globals.trans h.globals
  tables := Nat.le_trans h.tables h'.tables
  table id hid hne := by
    rw [h'.table id (Nat.lt_of_lt_of_le hid h.tables) (h.globals ▸ hne),
      h.table id hid hne]
  mark := by
    have := h'.mark
    rw [h.globals] at this
    rw [this, h.mark]
  entry key hkey := by
    have := h'.entry key fun name hname =>
      hkey name (List.mem_append_right _ hname)
    rw [h.globals] at this
    rw [this, h.entry key fun name hname =>
      hkey name (List.mem_append_left _ hname)]
  functions := Nat.le_trans h.functions h'.functions
  callable id hid := by
    rw [h'.callable id (Nat.lt_of_lt_of_le hid h.functions),
      h.callable id hid]
  types name hname := by
    rw [List.mem_append, not_or] at hname
    rw [h'.types name hname.2, h.types name hname.1]
  handles := h'.handles.trans h.handles
  host := h'.host.trans h.host
  exchange := h'.exchange.trans h.exchange

theorem Grows.hasGlobals (h : Grows names types i i')
    (globals : i.HasGlobals) : i'.HasGlobals := by
  constructor
  · rw [h.globals]
    exact Nat.lt_of_lt_of_le globals.present h.tables
  · rw [h.globals, h.mark, globals.plain]

/-- A global of another name is as it was. -/
theorem Grows.global (h : Grows names types i i') {name : String}
    (hname : name ∉ names) : i'.global name = i.global name := by
  have hkey : ∀ n ∈ names, (Value.ofText name).asKey ≠ .ofText n := by
    intro n hn heq
    rw [Value.asKey_ofText, Value.ofText_inj] at heq
    exact hname (heq ▸ hn)
  unfold Interpreter.global Table.field
  rw [h.globals, h.entry _ hkey]

/-! ## Single changes -/

theorem grows_alloc (i : Interpreter F) (t : Table) (h : i.HasGlobals) :
    Grows [] [] i (i.alloc t).2 := by
  have hext := Heap.alloc_extends i.heap t
  have hglobals : (i.alloc t).2.table i.globals = i.table i.globals :=
    hext.table_eq _ h.present
  exact
    { Grows.refl i with
      tables := hext.size_le
      table := fun id hid _ => hext.table_eq id hid
      mark := by rw [hglobals]
      entry := fun key _ => by rw [hglobals] }

theorem grows_addFunction (i : Interpreter F) (c : Callable F) :
    Grows [] [] i (i.addFunction c).2 :=
  { Grows.refl i with
    functions := by simp [addFunction]
    callable := fun id hid => by
      simp [addFunction, Interpreter.callable, Array.getD_eq_getD_getElem?,
        Array.getElem?_push, Nat.ne_of_lt hid] }

theorem callable_addFunction (i : Interpreter F) (c : Callable F) :
    (i.addFunction c).2.callable i.functions.size = c := by
  simp [addFunction, Interpreter.callable, Array.getD_eq_getD_getElem?]

theorem table_setGlobal (i : Interpreter F) (name : String) (v : Value)
    (h : i.HasGlobals) (id : TableId) :
    (i.setGlobal name v).table id
      = if i.globals = id then (i.table id).set (.ofText name) v
        else i.table id := by
  have hmodify := Heap.table_modify i.heap i.globals
    (·.set (.ofText name) v) id
  simp only [h.present, and_true] at hmodify
  exact hmodify

theorem grows_setGlobal (i : Interpreter F) (name : String) {v : Value}
    (hv : v ≠ .nil) (h : i.HasGlobals) :
    Grows [name] [] i (i.setGlobal name v) :=
  { Grows.refl i with
    tables := Nat.le_of_eq (Heap.size_modify i.heap _ _).symm
    table := fun id _ hne => by
      rw [table_setGlobal i name v h, if_neg hne.symm]
    mark := by rw [table_setGlobal i name v h, if_pos rfl, Table.set_mark]
    entry := fun key hkey => by
      rw [table_setGlobal i name v h, if_pos rfl,
        Table.get_set _ (Value.isKey_ofText name) hv, Value.asKey_ofText,
        if_neg (hkey name List.mem_cons_self)] }

theorem global_setGlobal (i : Interpreter F) (name : String) {v : Value}
    (hv : v ≠ .nil) (h : i.HasGlobals) :
    (i.setGlobal name v).global name = v := by
  have htable := table_setGlobal i name v h i.globals
  rw [if_pos rfl] at htable
  show ((i.setGlobal name v).table i.globals).get (.ofText name) = v
  rw [htable, Table.get_set _ (Value.isKey_ofText name) hv, if_pos rfl]

/-- An interpreter with one more object type. -/
def addClass (i : Interpreter F) (name : String) (id : TableId) :
    Interpreter F :=
  { i with classes := i.classes.insert name id }

theorem grows_addClass (i : Interpreter F) (name : String) (id : TableId) :
    Grows [] [name] i (i.addClass name id) :=
  { Grows.refl i with
    types := fun other hother => by
      have hne : name ≠ other := fun heq => hother (by simp [heq])
      rw [addClass, KeyMap.get?_insert, if_neg hne] }

/-! ## A new interpreter -/

/-- The host does not show in the tables of a new interpreter. -/
theorem heap_fresh (host : Option HostContext) :
    (fresh host : Interpreter F).heap
      = (fresh none : Interpreter Empty).heap := by
  unfold fresh
  rfl

theorem globals_fresh (host : Option HostContext) :
    (fresh host : Interpreter F).globals
      = (fresh none : Interpreter Empty).globals := by
  unfold fresh
  rfl

theorem hasGlobals_fresh (host : Option HostContext) :
    (fresh host : Interpreter F).HasGlobals := by
  constructor
  · rw [heap_fresh, globals_fresh]
    decide +kernel
  · unfold Interpreter.table
    rw [heap_fresh, globals_fresh]
    decide +kernel

end Interpreter

end ScriptHost
