/-
ScriptHost.Proofs.Script.Reordering — the order of a registry does not
matter.

Whether a registry is bindable says nothing about the order of its modules
and factories (`Bindable.reordered`), and what is in its place after binding
is known from the registry alone (`Bound`). Two tables of one module differ
in the identities of the table and of its functions at most
(`sameTable_of_placed`). So binding in another order succeeds just as well
and leaves the same bindings (`bindRegistry_reordered`).
-/
import ScriptHost.Proofs.Script.Bindable

namespace ScriptHost

variable {F : Type}

namespace Registry

/-- The same modules and factories, in whatever order. -/
structure Reordered (r r' : Registry F) : Prop where
  modules : r.modules.Perm r'.modules
  factories : r.factories.Perm r'.factories

theorem Reordered.symm {r r' : Registry F} (h : Reordered r r') :
    Reordered r' r := ⟨h.modules.symm, h.factories.symm⟩

end Registry

namespace Binder

variable {m : Module F} {r r' : Registry F} {i i₁ i₂ : Interpreter F}
  {id₁ id₂ : TableId}

/-! ## When binding succeeds -/

section Reordered

variable (h : Registry.Reordered r r')
include h

theorem perm_registryNames : (registryNames r).Perm (registryNames r') :=
  (h.modules.flatMap_right _).append (h.factories.map _)

theorem perm_registryTypes : (registryTypes r).Perm (registryTypes r') :=
  h.modules.flatMap_right _

/-- What binding needs does not depend on the order. -/
theorem Bindable.reordered (bindable : Bindable r i) : Bindable r' i where
  modules := (h.modules.map _).nodup_iff.mp bindable.modules
  factories := (h.factories.map _).nodup_iff.mp bindable.factories
  apart f hf hmem := bindable.apart f (h.factories.mem_iff.mpr hf)
    ((h.modules.flatMap_right _).mem_iff.mpr hmem)
  globals name hname :=
    bindable.globals name ((perm_registryNames h).mem_iff.mpr hname)
  types name hname :=
    bindable.types name ((perm_registryTypes h).mem_iff.mpr hname)
  fields m hm := bindable.fields m (h.modules.mem_iff.mpr hm)

end Reordered

/-- Everything in a registry is in its place, and nothing else is new under
a name. -/
structure Bound (r : Registry F) (i i' : Interpreter F) : Prop where
  grows : i.Grows (registryNames r) (registryTypes r) i'
  modules : ∀ m ∈ r.modules, ∃ id, Placed m i' id
  factories : ∀ f ∈ r.factories, FactoryPlaced f i'

theorem bound_bindRegistry (h : i.HasGlobals) (bindable : Bindable r i) :
    Bound r i
      ((bindRegistry r).run.run { interpreter := i }).2.interpreter := by
  rw [(bindRegistry_guarded r).done _ ((freeRegistry_iff r h).mpr bindable)]
  have hgrows := grows_row grows_addModule r.modules { interpreter := i } h
  refine ⟨grows_addRegistry r (b := { interpreter := i }) h, fun m hm => ?_,
    placed_factories (hgrows.hasGlobals h) bindable.factories⟩
  obtain ⟨id, -, placed⟩ :=
    placed_addRegistry r h bindable.modules bindable.apart m hm
  exact ⟨id, placed⟩

/-! ## The same bindings -/

/-- What stands under a key of two tables: functions that do the same, the
tables themselves, the same text, or nothing. -/
inductive SameEntry (i₁ i₂ : Interpreter F) (id₁ id₂ : TableId) :
    Value → Value → Prop
  | function {n₁ n₂ : FunctionId} (h : i₁.callable n₁ = i₂.callable n₂) :
    SameEntry i₁ i₂ id₁ id₂ (.func n₁) (.func n₂)
  | self : SameEntry i₁ i₂ id₁ id₂ (.table id₁) (.table id₂)
  | text (s : String) : SameEntry i₁ i₂ id₁ id₂ (.ofText s) (.ofText s)
  | absent : SameEntry i₁ i₂ id₁ id₂ .nil .nil

/-- The tables hold the same under every key. -/
structure SameTable (i₁ i₂ : Interpreter F) (id₁ id₂ : TableId) : Prop where
  mark : (i₁.table id₁).mark = (i₂.table id₂).mark
  entry : ∀ key, SameEntry i₁ i₂ id₁ id₂ ((i₁.table id₁).get key)
    ((i₂.table id₂).get key)

/-- What a name is bound to: functions that do the same, or tables that hold
the same. -/
inductive SameBound (i₁ i₂ : Interpreter F) : Value → Value → Prop
  | function {n₁ n₂ : FunctionId} (h : i₁.callable n₁ = i₂.callable n₂) :
    SameBound i₁ i₂ (.func n₁) (.func n₂)
  | table {id₁ id₂ : TableId} (h : SameTable i₁ i₂ id₁ id₂) :
    SameBound i₁ i₂ (.table id₁) (.table id₂)

/-- Two interpreters have the same globals and object types after a registry
was bound: the same bindings under the names of the registry, and under all
others what was there before. -/
structure SameBindings (r : Registry F) (i i₁ i₂ : Interpreter F) :
    Prop where
  untouched₁ : Untouched i i₁
  untouched₂ : Untouched i i₂
  global : ∀ name ∈ registryNames r,
    SameBound i₁ i₂ (i₁.global name) (i₂.global name)
  entry : ∀ key : Value, (∀ name ∈ registryNames r, key.asKey ≠ .ofText name) →
    (i₁.table i.globals).get key = (i.table i.globals).get key
      ∧ (i₂.table i.globals).get key = (i.table i.globals).get key
  type : ∀ name ∈ registryTypes r, ∃ id₁ id₂,
    i₁.classes.get? name = some id₁ ∧ i₂.classes.get? name = some id₂
      ∧ SameTable i₁ i₂ id₁ id₂
  types : ∀ name, name ∉ registryTypes r →
    i₁.classes.get? name = i.classes.get? name
      ∧ i₂.classes.get? name = i.classes.get? name

/-- A table under a key that counts as a text. -/
theorem get_eq_field {t : Table} {key : Value} {k : String}
    (h : key.asKey = .ofText k) : t.get key = t.field k := by
  rw [Table.field, Table.get, Table.get, h]
  rfl

/-- **Two tables of one module hold the same.** -/
theorem sameTable_of_placed (placed₁ : Placed m i₁ id₁)
    (placed₂ : Placed m i₂ id₂) : SameTable i₁ i₂ id₁ id₂ := by
  refine ⟨placed₁.plain.trans placed₂.plain.symm, fun key => ?_⟩
  by_cases hnamed : ∃ k, key.asKey = .ofText k
      ∧ (m.method? k ≠ none ∨ IsOwnField m k)
  · obtain ⟨k, hkey, hk⟩ := hnamed
    rw [get_eq_field hkey, get_eq_field hkey]
    by_cases hown : IsOwnField m k
    · rw [placed₁.own k hown, placed₂.own k hown, ownField, ownField]
      split
      · exact .text _
      · exact .self
    · obtain ⟨β, hβ⟩ := Option.ne_none_iff_exists'.mp (hk.resolve_right hown)
      obtain ⟨n₁, -, hfield₁, hcallable₁⟩ := placed₁.method k β hβ hown
      obtain ⟨n₂, -, hfield₂, hcallable₂⟩ := placed₂.method k β hβ hown
      rw [hfield₁, hfield₂]
      exact .function (hcallable₁.trans hcallable₂.symm)
  · have habsent : ∀ k, key.asKey = .ofText k →
        m.method? k = none ∧ ¬ IsOwnField m k := fun k hkey =>
      ⟨by_contra fun hk => hnamed ⟨k, hkey, .inl hk⟩,
        fun hown => hnamed ⟨k, hkey, .inr hown⟩⟩
    rw [placed₁.absent key habsent, placed₂.absent key habsent]
    exact .absent

/-! ## What is bound in two orders -/

section Bound

variable (h : Registry.Reordered r r') (bound₁ : Bound r i i₁)
  (bound₂ : Bound r' i i₂)
include h bound₁ bound₂

theorem sameBound_global {name : String} (hname : name ∈ registryNames r) :
    SameBound i₁ i₂ (i₁.global name) (i₂.global name) := by
  rcases List.mem_append.mp hname with hname | hname
  · obtain ⟨m, hm, hn⟩ := List.mem_flatMap.mp hname
    obtain ⟨id₁, placed₁⟩ := bound₁.modules m hm
    obtain ⟨id₂, placed₂⟩ := bound₂.modules m (h.modules.mem_iff.mp hm)
    rw [placed₁.global hn, placed₂.global hn]
    exact .table (sameTable_of_placed placed₁ placed₂)
  · obtain ⟨f, hf, rfl⟩ := List.mem_map.mp hname
    obtain ⟨n₁, -, hglobal₁, hcallable₁⟩ := bound₁.factories f hf
    obtain ⟨n₂, -, hglobal₂, hcallable₂⟩ :=
      bound₂.factories f (h.factories.mem_iff.mp hf)
    rw [hglobal₁, hglobal₂]
    exact .function (hcallable₁.trans hcallable₂.symm)

theorem sameTable_type {name : String} (hname : name ∈ registryTypes r) :
    ∃ id₁ id₂, i₁.classes.get? name = some id₁
      ∧ i₂.classes.get? name = some id₂ ∧ SameTable i₁ i₂ id₁ id₂ := by
  obtain ⟨m, hm, hn⟩ := List.mem_flatMap.mp hname
  obtain ⟨id₁, placed₁⟩ := bound₁.modules m hm
  obtain ⟨id₂, placed₂⟩ := bound₂.modules m (h.modules.mem_iff.mp hm)
  exact ⟨id₁, id₂, placed₁.type hn, placed₂.type hn,
    sameTable_of_placed placed₁ placed₂⟩

/-- The bindings that two orders leave are the same. -/
theorem sameBindings_of_bound (bindable : Bindable r i) :
    SameBindings r i i₁ i₂ := by
  have bindable' := bindable.reordered h
  have hnames := fun name => (perm_registryNames h).mem_iff (a := name)
  have htypes := fun name => (perm_registryTypes h).mem_iff (a := name)
  exact
    { untouched₁ := untouched bound₁.grows bindable.globals bindable.types
      untouched₂ := untouched bound₂.grows bindable'.globals bindable'.types
      global := fun _ hname => sameBound_global h bound₁ bound₂ hname
      entry := fun key hkey => ⟨bound₁.grows.entry key hkey,
        bound₂.grows.entry key fun name hname =>
          hkey name ((hnames name).mpr hname)⟩
      type := fun _ hname => sameTable_type h bound₁ bound₂ hname
      types := fun name hname => ⟨bound₁.grows.types name hname,
        bound₂.grows.types name fun hmem =>
          hname ((htypes name).mpr hmem)⟩ }

end Bound

/-- **The order of a registry does not matter.** Its modules and factories,
in another order, are bound just when they are bound in this one, into any
interpreter whose globals no class table answers for. Then the globals and
the object types are the same: under every name of the registry stands the
same binding, and under every other name what was there before. -/
theorem bindRegistry_reordered (h : Registry.Reordered r r')
    (globals : i.HasGlobals) :
    let done := (bindRegistry r).run.run { interpreter := i }
    let done' := (bindRegistry r').run.run { interpreter := i }
    (done.1 = .ok () ↔ done'.1 = .ok ())
      ∧ (done.1 = .ok () →
        SameBindings r i done.2.interpreter done'.2.interpreter) := by
  have hiff := (bindRegistry_guarded r).ok_iff { interpreter := i }
  have hiff' := (bindRegistry_guarded r').ok_iff { interpreter := i }
  rw [freeRegistry_iff r globals] at hiff
  rw [freeRegistry_iff r' globals] at hiff'
  refine ⟨(hiff.trans ⟨.reordered h, .reordered h.symm⟩).trans hiff'.symm,
    fun hok => ?_⟩
  have bindable := hiff.mp hok
  exact sameBindings_of_bound h (bound_bindRegistry globals bindable)
    (bound_bindRegistry globals (bindable.reordered h)) bindable

/-- `lamps` with a second factory. -/
def lampsAndTorch : Registry SampleFunction where
  modules := lamps.modules
  factories := lamps.factories ++ [{ name := "Torch", function := .echo }]

/-- The same, from the last to the first. -/
def torchAndLamps : Registry SampleFunction where
  modules := lampsAndTorch.modules.reverse
  factories := lampsAndTorch.factories.reverse

theorem bindRegistry_reordered_lamps :
    let done := (bindRegistry lampsAndTorch).run.run
      { interpreter := .fresh none }
    let done' := (bindRegistry torchAndLamps).run.run
      { interpreter := .fresh none }
    Registry.Reordered lampsAndTorch torchAndLamps
      ∧ (Interpreter.fresh none : Interpreter SampleFunction).HasGlobals
      ∧ done.1 = .ok () ∧ done'.1 = .ok ()
      ∧ done.2.interpreter.global "Torch" ≠ done'.2.interpreter.global "Torch"
      ∧ SameBindings lampsAndTorch (.fresh none) done.2.interpreter
        done'.2.interpreter := by
  have h : Registry.Reordered lampsAndTorch torchAndLamps :=
    ⟨(List.reverse_perm _).symm, (List.reverse_perm _).symm⟩
  have globals := Interpreter.hasGlobals_fresh (F := SampleFunction) none
  have hok : ((bindRegistry lampsAndTorch).run.run
      { interpreter := .fresh none }).1 = .ok () := by decide +kernel
  obtain ⟨hiff, hsame⟩ := bindRegistry_reordered h globals
  exact ⟨h, globals, hok, hiff.mp hok, by decide +kernel, hsame hok⟩

end Binder

end ScriptHost
