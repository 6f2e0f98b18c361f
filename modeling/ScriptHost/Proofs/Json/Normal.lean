/-
ScriptHost.Proofs.Json.Normal — what is left of data in a script's hands.

A script cannot hold a null inside a table, nor an integer above 64 bits
with a sign. `Json.norm` is the data that remains: a field that is null is
gone, an array ends before its first null, a larger integer is the double
nearest to it. `plain_norm` and `norm_of_plain` say that `norm` yields data
without any of these (`Plain`) and leaves such data alone, so taking it
twice is taking it once (`norm_norm`).
-/
import Mathlib.Data.List.TakeWhile
import ScriptHost.Json.Basic
import ScriptHost.Proofs.Data.KeyMap
import ScriptHost.Proofs.Number.Binary64

namespace ScriptHost

namespace Json

/-- Induction on data: arrays from their items, objects from the values of
their fields. -/
@[induction_eliminator]
theorem byParts {motive : Json → Prop} (null : motive null)
    (bool : ∀ b, motive (bool b)) (int : ∀ i, motive (int i))
    (float : ∀ x, motive (float x)) (str : ∀ s, motive (str s))
    (arr : ∀ items, (∀ j ∈ items, motive j) → motive (arr items))
    (obj : ∀ fields, (∀ p ∈ fields, motive p.2) → motive (obj fields))
    (j : Json) : motive j :=
  @Json.rec motive (fun items => ∀ j ∈ items, motive j)
    (fun fields => ∀ p ∈ fields, motive p.2) (fun p => motive p.2)
    null bool int float str arr obj
    nofun (fun _ _ hj hrest => List.forall_mem_cons.mpr ⟨hj, hrest⟩)
    nofun (fun _ _ hp hrest => List.forall_mem_cons.mpr ⟨hp, hrest⟩)
    (fun _ _ hj => hj) j

/-! ## Properties of every part -/

mutual
/-- Does `p` hold of the data and of all data inside it? -/
def Everywhere (p : Json → Prop) : Json → Prop
  | arr items => p (arr items) ∧ EverywhereItems p items
  | obj fields => p (obj fields) ∧ EverywhereFields p fields
  | j => p j

/-- `Everywhere` for every item of an array. -/
def EverywhereItems (p : Json → Prop) : List Json → Prop
  | [] => True
  | j :: rest => Everywhere p j ∧ EverywhereItems p rest

/-- `Everywhere` for every value of an object. -/
def EverywhereFields (p : Json → Prop) : List (String × Json) → Prop
  | [] => True
  | (_, j) :: rest => Everywhere p j ∧ EverywhereFields p rest
end

variable {p : Json → Prop} {items : List Json} {fields : Fields Json}

theorem everywhere_arr : Everywhere p (arr items)
    ↔ p (arr items) ∧ ∀ j ∈ items, Everywhere p j := by
  have h : EverywhereItems p items ↔ ∀ j ∈ items, Everywhere p j := by
    induction items with
    | nil => simp [EverywhereItems]
    | cons j rest ih => rw [EverywhereItems, ih, List.forall_mem_cons]
  rw [Everywhere, h]

theorem everywhere_obj : Everywhere p (obj fields)
    ↔ p (obj fields) ∧ ∀ f ∈ fields, Everywhere p f.2 := by
  have h : EverywhereFields p fields ↔ ∀ f ∈ fields, Everywhere p f.2 := by
    induction fields with
    | nil => simp [EverywhereFields]
    | cons f rest ih => rw [EverywhereFields, ih, List.forall_mem_cons]
  rw [Everywhere, h]

theorem ordered_arr : Ordered (arr items) ↔ ∀ j ∈ items, Ordered j := by
  rw [Ordered]
  induction items with
  | nil => simp [OrderedItems]
  | cons j rest ih => rw [OrderedItems, ih, List.forall_mem_cons]

theorem ordered_obj : Ordered (obj fields)
    ↔ fields.Sorted ∧ ∀ f ∈ fields, Ordered f.2 := by
  have h : OrderedFields fields ↔ ∀ f ∈ fields, Ordered f.2 := by
    induction fields with
    | nil => simp [OrderedFields]
    | cons f rest ih => rw [OrderedFields, ih, List.forall_mem_cons]
  rw [Ordered, h]

/-- What a host can hold: integers of 64 bits with or without a sign,
doubles that are numbers, arrays no longer than 64 bits can count. -/
def Proper : Json → Prop :=
  Everywhere fun
    | int i => Word.minSigned ≤ i ∧ i ≤ Word.max64
    | float x => x.isFinite = true
    | arr items => items.length ≤ Word.max64
    | _ => True

/-- What a script can hold too: no null inside anything, no integer above
64 bits with a sign. -/
def Plain : Json → Prop :=
  Everywhere fun
    | int i => i ≤ Word.maxSigned
    | arr items => ∀ j ∈ items, j.isNull = false
    | obj fields => ∀ f ∈ fields, f.2.isNull = false
    | _ => True

/-! ## The data that remains -/

mutual
/-- The data that remains in a script's hands. -/
def norm : Json → Json
  | int i => if i ≤ Word.maxSigned then int i else float (.ofInt i)
  | arr items => arr (normItems items)
  | obj fields => obj (normFields fields)
  | j => j

/-- The items before the first null, each as it remains. -/
def normItems : List Json → List Json
  | [] => []
  | j :: rest => if j.isNull then [] else norm j :: normItems rest

/-- The fields that are not null, each as it remains. -/
def normFields : List (String × Json) → List (String × Json)
  | [] => []
  | (k, j) :: rest =>
    if j.isNull then normFields rest else (k, norm j) :: normFields rest
end

theorem normItems_eq (items : List Json) :
    normItems items = (items.takeWhile fun j => !j.isNull).map norm := by
  induction items with
  | nil => rfl
  | cons j rest ih =>
    cases h : j.isNull with
    | true => simp [normItems, h]
    | false => simp [normItems, h, ih]

theorem normFields_eq (fields : List (String × Json)) :
    normFields fields = (fields.filter fun f => !f.2.isNull).map
      fun f => (f.1, f.2.norm) := by
  induction fields with
  | nil => rfl
  | cons f rest ih =>
    obtain ⟨k, j⟩ := f
    cases h : j.isNull with
    | true => simp [normFields, h, ih]
    | false => simp [normFields, h, ih]

@[simp] theorem isNull_norm (j : Json) : j.norm.isNull = j.isNull := by
  cases j with
  | int i =>
    rw [norm]
    split <;> rfl
  | null | bool | float | str | arr | obj => simp [norm, isNull]

/-- Every item that remains was an item, before any null. -/
theorem mem_normItems {j : Json} (h : j ∈ normItems items) :
    ∃ j' ∈ items, j'.isNull = false ∧ j = norm j' := by
  rw [normItems_eq] at h
  obtain ⟨j', hmem, rfl⟩ := List.mem_map.mp h
  exact ⟨j', (List.takeWhile_sublist _).subset hmem,
    by simpa using List.mem_takeWhile_imp hmem, rfl⟩

/-- Every field that remains was a field and not null. -/
theorem mem_normFields {f : String × Json} (h : f ∈ normFields fields) :
    ∃ f' ∈ fields, f'.2.isNull = false ∧ f = (f'.1, norm f'.2) := by
  rw [normFields_eq] at h
  obtain ⟨f', hmem, rfl⟩ := List.mem_map.mp h
  obtain ⟨hmem, hnull⟩ := List.mem_filter.mp hmem
  exact ⟨f', hmem, by simpa using hnull, rfl⟩

/-- What remains is plain. -/
theorem plain_norm (j : Json) : Plain j.norm := by
  induction j with
  | int i =>
    rw [norm]
    split
    · rename_i h
      exact h
    · exact trivial
  | null | bool | float | str => exact trivial
  | arr items ih =>
    rw [norm]
    refine everywhere_arr.mpr ⟨fun j hj => ?_, fun j hj => ?_⟩
    · obtain ⟨j', -, hnull, rfl⟩ := mem_normItems hj
      rwa [isNull_norm]
    · obtain ⟨j', hmem, -, rfl⟩ := mem_normItems hj
      exact ih j' hmem
  | obj fields ih =>
    rw [norm]
    refine everywhere_obj.mpr ⟨fun f hf => ?_, fun f hf => ?_⟩
    · obtain ⟨f', -, hnull, rfl⟩ := mem_normFields hf
      rwa [isNull_norm]
    · obtain ⟨f', hmem, -, rfl⟩ := mem_normFields hf
      exact ih f' hmem

/-- Plain data stays as it is. -/
theorem norm_of_plain {j : Json} (h : Plain j) : j.norm = j := by
  induction j with
  | int i => exact if_pos h
  | null | bool | float | str => rfl
  | arr items ih =>
    obtain ⟨hnull, hitems⟩ := everywhere_arr.mp h
    have hall : items.takeWhile (fun j => !j.isNull) = items :=
      List.takeWhile_eq_self_iff.mpr fun j hj => by simp [hnull j hj]
    rw [norm, normItems_eq, hall,
      List.map_congr_left fun j hj => ih j hj (hitems j hj), List.map_id']
  | obj fields ih =>
    obtain ⟨hnull, hfields⟩ := everywhere_obj.mp h
    have hall : fields.filter (fun f => !f.2.isNull) = fields :=
      List.filter_eq_self.mpr fun f hf => by simp [hnull f hf]
    have hsame : ∀ f ∈ fields, (f.1, norm f.2) = f := fun f hf => by
      rw [ih f hf (hfields f hf)]
    rw [norm, normFields_eq, hall, List.map_congr_left hsame, List.map_id']

/-- **What remains, remains.** -/
theorem norm_norm (j : Json) : j.norm.norm = j.norm :=
  norm_of_plain (plain_norm j)

theorem sorted_normFields (h : fields.Sorted) :
    Fields.Sorted (normFields fields) := by
  rw [normFields_eq]
  exact List.pairwise_map.mpr (h.filter _)

/-- What remains of an object in key order is in key order. -/
theorem ordered_norm {j : Json} (h : Ordered j) : Ordered j.norm := by
  induction j with
  | int i =>
    rw [norm]
    split <;> trivial
  | null | bool | float | str => exact trivial
  | arr items ih =>
    rw [norm]
    refine ordered_arr.mpr fun j hj => ?_
    obtain ⟨j', hmem, -, rfl⟩ := mem_normItems hj
    exact ih j' hmem (ordered_arr.mp h j' hmem)
  | obj fields ih =>
    obtain ⟨hsorted, hfields⟩ := ordered_obj.mp h
    rw [norm]
    refine ordered_obj.mpr ⟨sorted_normFields hsorted, fun f hf => ?_⟩
    obtain ⟨f', hmem, -, rfl⟩ := mem_normFields hf
    exact ih f' hmem (hfields f' hmem)

/-- What remains of a host's data is a host's data. -/
theorem proper_norm {j : Json} (h : Proper j) : Proper j.norm := by
  induction j with
  | int i =>
    rw [norm]
    split
    · exact h
    · rename_i hlarge
      exact Binary64.ofInt_finite (Int.not_le.mp hlarge) h.2
  | null | bool | float | str => exact h
  | arr items ih =>
    obtain ⟨hlength, hitems⟩ := everywhere_arr.mp h
    rw [norm]
    refine everywhere_arr.mpr ⟨?_, fun j hj => ?_⟩
    · have hle : (normItems items).length ≤ items.length := by
        rw [normItems_eq, List.length_map]
        exact (List.takeWhile_sublist _).length_le
      exact hle.trans hlength
    · obtain ⟨j', hmem, -, rfl⟩ := mem_normItems hj
      exact ih j' hmem (hitems j' hmem)
  | obj fields ih =>
    obtain ⟨-, hfields⟩ := everywhere_obj.mp h
    rw [norm]
    refine everywhere_obj.mpr ⟨trivial, fun f hf => ?_⟩
    obtain ⟨f', hmem, -, rfl⟩ := mem_normFields hf
    exact ih f' hmem (hfields f' hmem)

end Json

end ScriptHost
