/-
ScriptHost.Proofs.Config.View — the two views of a configuration.

Scripts see a configuration in two ways: as the tables of the global `app`,
and through `config.get`, which looks a path up. A `Place` says where in
`app` lies what a path leads to. The second way goes through JSON text, which
has no double that is not finite; `Json.finite` puts null in its place, and
this is the only difference (`follow?_view`).
-/
import Mathlib.Data.List.Nodup
import ScriptHost.Config.View
import ScriptHost.Engine.Instance
import ScriptHost.Proofs.Data.KeyMap
import ScriptHost.Proofs.Json.Normal

namespace ScriptHost

/-! ## Data as JSON text can hold it -/

namespace Json

mutual
/-- The data with null in place of every double that is not finite. -/
def finite : Json → Json
  | float x => if x.isFinite then float x else null
  | arr items => arr (finiteItems items)
  | obj fields => obj (finiteFields fields)
  | j => j

/-- `finite` for the items of an array. -/
def finiteItems : List Json → List Json
  | [] => []
  | j :: rest => finite j :: finiteItems rest

/-- `finite` for the fields of an object. -/
def finiteFields : List (String × Json) → List (String × Json)
  | [] => []
  | (k, j) :: rest => (k, finite j) :: finiteFields rest
end

/-- Data in which every double is finite. -/
def Finite : Json → Prop :=
  Everywhere fun
    | float x => x.isFinite = true
    | _ => True

theorem finiteItems_eq_map (items : List Json) :
    finiteItems items = items.map finite := by
  induction items with
  | nil => rfl
  | cons j rest ih => rw [finiteItems, ih, List.map_cons]

theorem finiteFields_eq_map (fields : List (String × Json)) :
    finiteFields fields = fields.map fun f => (f.1, finite f.2) := by
  induction fields with
  | nil => rfl
  | cons f rest ih => rw [finiteFields, ih, List.map_cons]

/-- Nothing is replaced where every double is finite. -/
theorem Finite.eq {j : Json} (h : j.Finite) : j.finite = j := by
  induction j with
  | null | bool | int | str => rfl
  | float x => exact if_pos h
  | arr items ih =>
    obtain ⟨-, hitems⟩ := everywhere_arr.mp h
    rw [finite, finiteItems_eq_map,
      List.map_congr_left fun j hj => ih j hj (hitems j hj), List.map_id']
  | obj fields ih =>
    obtain ⟨-, hfields⟩ := everywhere_obj.mp h
    rw [finite, finiteFields_eq_map,
      List.map_congr_left (g := id) fun f hf => by
        rw [ih f hf (hfields f hf)]; rfl, List.map_id]

theorem field?_finite (j : Json) (name : String) :
    j.finite.field? name = (j.field? name).map finite := by
  cases j with
  | obj fields =>
    rw [finite, finiteFields_eq_map]
    exact Fields.find?_map finite fields name
  | float x =>
    rw [finite]
    split <;> rfl
  | null | bool | int | str | arr => rfl

theorem follow?_finite (j : Json) (names : List String) :
    Config.follow? j.finite names = (Config.follow? j names).map finite := by
  induction names generalizing j with
  | nil => rfl
  | cons name rest ih =>
    simp only [Config.follow?, List.foldlM_cons, field?_finite]
    cases j.field? name with
    | none => rfl
    | some j' => exact ih j'

theorem finite_finite (j : Json) : j.finite.finite = j.finite := by
  induction j with
  | null | bool | int | str => rfl
  | float x =>
    rw [finite]
    split
    · next h => exact if_pos h
    · rfl
  | arr items ih =>
    rw [finite, finiteItems_eq_map, finite, finiteItems_eq_map, List.map_map]
    exact congrArg arr (List.map_congr_left ih)
  | obj fields ih =>
    rw [finite, finiteFields_eq_map, finite, finiteFields_eq_map,
      List.map_map]
    exact congrArg obj (List.map_congr_left fun f hf => by
      rw [Function.comp_apply, ih f hf])

theorem ordered_finite {j : Json} (ordered : j.Ordered) :
    j.finite.Ordered := by
  induction j with
  | null | bool | int | str => trivial
  | float x =>
    rw [finite]
    split <;> trivial
  | arr items ih =>
    rw [finite, finiteItems_eq_map, ordered_arr, List.forall_mem_map]
    exact fun j hj => ih j hj (ordered_arr.mp ordered j hj)
  | obj fields ih =>
    obtain ⟨hsorted, hfields⟩ := ordered_obj.mp ordered
    rw [finite, finiteFields_eq_map, ordered_obj, List.forall_mem_map]
    exact ⟨List.pairwise_map.mpr hsorted,
      fun f hf => ih f hf (hfields f hf)⟩

theorem ordered_ofPairs {pairs : List (String × Json)}
    (h : ∀ f ∈ pairs, f.2.Ordered) : (ofPairs pairs).Ordered :=
  ordered_obj.mpr ⟨Fields.ofList_sorted pairs,
    fun f hf => h f (Fields.mem_ofList hf)⟩

theorem field?_ofPairs {pairs : List (String × Json)}
    (distinct : (pairs.map Prod.fst).Nodup) {f : String × Json}
    (hf : f ∈ pairs) : (ofPairs pairs).field? f.1 = some f.2 :=
  (Fields.find?_ofList distinct f.1).trans (Fields.find?_of_mem distinct hf)

theorem finite_ofPairs (pairs : List (String × Json)) :
    (ofPairs pairs).finite = ofPairs (pairs.map fun f => (f.1, f.2.finite)) := by
  rw [ofPairs, finite, finiteFields_eq_map, Fields.ofList_map]
  rfl

/-- Data that stands in order and that JSON text can hold. -/
structure Sound (j : Json) : Prop where
  ordered : j.Ordered
  finite : j.finite = j

/-- Nothing is replaced in the fields either. -/
theorem Sound.finite_field {j j' : Json} (sound : j.Sound) {name : String}
    (h : j.field? name = some j') : j'.finite = j' := by
  have hfinite := field?_finite j name
  rw [sound.finite, h] at hfinite
  exact (Option.some.inj hfinite).symm

theorem sound_ofPairs {pairs : List (String × Json)}
    (h : ∀ f ∈ pairs, f.2.Sound) : (ofPairs pairs).Sound := by
  refine ⟨ordered_ofPairs fun f hf => (h f hf).ordered, ?_⟩
  rw [finite_ofPairs, List.map_congr_left (g := id) fun f hf => by
    rw [(h f hf).finite]; rfl, List.map_id]

theorem sound_str (s : String) : (str s).Sound := ⟨trivial, rfl⟩

theorem sound_int (i : Int) : (int i).Sound := ⟨trivial, rfl⟩

theorem sound_bool (b : Bool) : (bool b).Sound := ⟨trivial, rfl⟩

theorem sound_texts (texts : List String) : (textsJson texts).Sound where
  ordered := by
    rw [textsJson, ordered_arr, List.forall_mem_map]
    exact fun _ _ => trivial
  finite := by
    rw [textsJson, finite, finiteItems_eq_map, List.map_map]
    rfl

end Json

/-! ## Custom settings -/

namespace Toml

mutual
/-- The view of a value is its data without what JSON text cannot hold. -/
theorem view_eq : ∀ t : Toml, t.view = t.data.finite
  | str _ | int _ | float _ | bool _ | date _ => rfl
  | arr items => by
    rw [view, data, Json.finite, viewItems_eq items]
  | table fields => by
    rw [view, data, Json.finite, viewFields_eq fields]

theorem viewItems_eq : ∀ items : List Toml,
    viewItems items = Json.finiteItems (dataItems items)
  | [] => rfl
  | t :: rest => by
    rw [viewItems, dataItems, Json.finiteItems, view_eq t, viewItems_eq rest]

theorem viewFields_eq : ∀ fields : List (String × Toml),
    viewFields fields = Json.finiteFields (dataFields fields)
  | [] => rfl
  | (k, t) :: rest => by
    rw [viewFields, dataFields, view_eq t, viewFields_eq rest,
      Json.finiteFields_eq_map, Json.finiteFields_eq_map]
    exact (Fields.insert_map Json.finite k t.data _).symm
end

mutual
/-- The data of a value stands in order. -/
theorem ordered_data : ∀ t : Toml, t.data.Ordered
  | str _ | int _ | float _ | bool _ => trivial
  | date _ => by simp [data, Json.Ordered, Json.OrderedFields, Fields.Sorted]
  | arr items => by
    rw [data, Json.ordered_arr]
    exact ordered_dataItems items
  | table fields => by
    rw [data, Json.ordered_obj]
    exact ordered_dataFields fields

theorem ordered_dataItems : ∀ items : List Toml,
    ∀ j ∈ dataItems items, j.Ordered
  | [] => nofun
  | t :: rest =>
    List.forall_mem_cons.mpr ⟨ordered_data t, ordered_dataItems rest⟩

theorem ordered_dataFields : ∀ fields : List (String × Toml),
    Fields.Sorted (dataFields fields) ∧ ∀ f ∈ dataFields fields, f.2.Ordered
  | [] => ⟨.nil, nofun⟩
  | (k, t) :: rest => by
    obtain ⟨hsorted, hrest⟩ := ordered_dataFields rest
    refine ⟨Fields.insert_sorted k _ hsorted, fun f hf => ?_⟩
    rcases Fields.mem_insert hf with rfl | hf
    · exact ordered_data t
    · exact hrest f hf
end

end Toml

namespace Config

open Blueprint (configTables configData shortcuts)

variable (c : Config)

theorem customView_eq : c.customView = c.customData.finite := by
  rw [customView, customData, Json.finite, Toml.viewFields_eq]

/-! ## The parts of a configuration -/

theorem nodup_view : ((c.settings ++ c.sections).map Prod.fst).Nodup := by
  simp [settings, sections]

theorem nodup_configData :
    ((configTables c ++ shortcuts c).map Prod.fst).Nodup := by
  simp [configTables, shortcuts]

theorem mem_settings {f : String × Json} (h : f ∈ shortcuts c) :
    f ∈ c.settings := by
  simp only [shortcuts, List.mem_cons, List.not_mem_nil, or_false] at h
  rcases h with rfl | rfl | rfl | rfl <;> simp [settings]

theorem ordered_customData : c.customData.Ordered :=
  Json.ordered_obj.mpr (Toml.ordered_dataFields c.custom.entries)

theorem sound_settings : ∀ f ∈ c.settings, f.2.Sound := by
  simp [settings, Json.sound_str, Json.sound_int, Json.sound_texts]

theorem sound_sections : ∀ f ∈ c.sections, f.2.Sound := by
  have hcustom : c.customView.Sound := by
    rw [customView_eq]
    exact ⟨Json.ordered_finite c.ordered_customData, Json.finite_finite _⟩
  simp only [sections, List.forall_mem_cons]
  refine ⟨?_, ?_, ?_, ?_, ?_, hcustom, List.forall_mem_nil _⟩
  all_goals
    refine Json.sound_ofPairs ?_
    simp [Json.sound_str, Json.sound_int, Json.sound_bool]

theorem sound_view : c.view.Sound := by
  rw [view]
  exact Json.sound_ofPairs fun f hf =>
    (List.mem_append.mp hf).elim (c.sound_settings f) (c.sound_sections f)

/-- The fields of the view that are in no section are some of its fields. -/
theorem mainSettings_eq : ∃ fields : Fields Json, c.view = .obj fields ∧
    c.mainSettings = .obj (fields.filter fun p => !p.2.isObject) := by
  refine ⟨.ofList (c.settings ++ c.sections), by rw [view, Json.ofPairs], ?_⟩
  rw [mainSettings, view, Json.ofPairs]

/-- The settings of no section are among all settings. -/
theorem field?_mainSettings {name : String} {j : Json}
    (h : c.mainSettings.field? name = some j) :
    c.view.field? name = some j := by
  obtain ⟨fields, hview, hmain⟩ := c.mainSettings_eq
  obtain ⟨hsorted, -⟩ := Json.ordered_obj.mp (hview ▸ c.sound_view.ordered)
  rw [hmain] at h
  rw [hview]
  exact Fields.find?_of_mem hsorted.nodup
    (List.mem_of_mem_filter (Fields.mem_of_find? h))

theorem ordered_mainSettings : c.mainSettings.Ordered := by
  obtain ⟨fields, hview, hmain⟩ := c.mainSettings_eq
  obtain ⟨hsorted, hfields⟩ :=
    Json.ordered_obj.mp (hview ▸ c.sound_view.ordered)
  rw [hmain, Json.ordered_obj]
  exact ⟨hsorted.filter _, fun f hf => hfields f (List.mem_of_mem_filter hf)⟩

/-- What is a section to `config.get` is one of `app`, as JSON text can hold
it. -/
theorem mem_configTables {f : String × Json} (h : f ∈ c.sections) :
    ∃ j, (f.1, j) ∈ configTables c ∧ f.2 = j.finite := by
  have hsound := c.sound_sections f h
  simp only [sections, List.mem_cons, List.not_mem_nil, or_false] at h
  rcases h with rfl | rfl | rfl | rfl | rfl | rfl
  case inr.inr.inr.inr.inr =>
    exact ⟨_, by simp [configTables], c.customView_eq⟩
  all_goals exact ⟨_, by simp [configTables], hsound.finite.symm⟩

theorem ordered_configData : (configData c).Ordered := by
  have hviews : ∀ f ∈ c.sections, f.2.Ordered := fun f hf =>
    (c.sound_sections f hf).ordered
  simp only [sections, List.forall_mem_cons] at hviews
  obtain ⟨hpaypal, hcaptcha, hmail, hpaygol, hssl, -⟩ := hviews
  refine Json.ordered_ofPairs ?_
  simp only [configTables, shortcuts, List.forall_mem_append,
    List.forall_mem_cons]
  exact ⟨⟨c.ordered_mainSettings, hpaypal, hcaptcha, hmail, hpaygol, hssl,
    c.ordered_customData, List.forall_mem_nil _⟩,
    trivial, trivial, trivial, trivial, List.forall_mem_nil _⟩

/-! ## The same place in both -/

/-- Where in `app` lies what a path leads to: a setting of no section in
`app.Main`, four of them in `app` itself as well, and everything in a section
or among the custom settings under the same names. -/
inductive Place : List String → List String → Prop
  | setting {name : String} (h : name ∈ c.settings.map Prod.fst) :
    Place [name] ["Main", name]
  | shortcut {name : String} (h : name ∈ (shortcuts c).map Prod.fst) :
    Place [name] [name]
  | inner {name : String} (names : List String)
    (h : name ∈ c.sections.map Prod.fst) :
    Place (name :: names) (name :: names)

variable {c}

theorem Place.ne_nil {path place : List String} (h : c.Place path place) :
    path ≠ [] := by
  cases h <;> exact nofun

theorem follow?_cons (j : Json) (name : String) (names : List String) :
    follow? j (name :: names)
      = (j.field? name).bind fun j => follow? j names := by
  rw [follow?, List.foldlM_cons]
  rfl

/-- **A path leads to what lies at its place in `app`**, as JSON text can hold
it. -/
theorem follow?_view {path place : List String} (h : c.Place path place)
    {j : Json} (found : follow? (configData c) place = some j) :
    follow? c.view path = some j.finite := by
  cases h with
  | @setting name _ =>
    have hmain : (configData c).field? "Main" = some c.mainSettings :=
      Json.field?_ofPairs c.nodup_configData (f := ("Main", c.mainSettings))
        (by simp [configTables])
    rw [follow?_cons, hmain, Option.bind_some, follow?_cons] at found
    obtain ⟨j', hfield, hj⟩ := Option.bind_eq_some_iff.mp found
    obtain rfl := Option.some.inj hj
    have hview := c.field?_mainSettings hfield
    rw [follow?_cons, hview, c.sound_view.finite_field hview]
    rfl
  | shortcut h =>
    obtain ⟨f, hf, rfl⟩ := List.mem_map.mp h
    have happ : (configData c).field? f.1 = some f.2 :=
      Json.field?_ofPairs c.nodup_configData
        (List.mem_append_right (configTables c) hf)
    have hview : c.view.field? f.1 = some f.2 :=
      Json.field?_ofPairs c.nodup_view
        (List.mem_append_left c.sections (c.mem_settings hf))
    rw [follow?_cons, happ, Option.bind_some] at found
    obtain rfl := Option.some.inj found
    rw [follow?_cons, hview, c.sound_view.finite_field hview]
    rfl
  | inner names h =>
    obtain ⟨f, hf, rfl⟩ := List.mem_map.mp h
    obtain ⟨j', htable, hj'⟩ := c.mem_configTables hf
    have happ : (configData c).field? f.1 = some j' :=
      Json.field?_ofPairs c.nodup_configData
        (List.mem_append_left (shortcuts c) htable)
    have hview : c.view.field? f.1 = some f.2 :=
      Json.field?_ofPairs c.nodup_view
        (List.mem_append_right c.settings hf)
    rw [follow?_cons, happ, Option.bind_some] at found
    rw [follow?_cons, hview, Option.bind_some, hj', Json.follow?_finite, found]
    rfl

end Config

end ScriptHost
