/-
ScriptHost.Proofs.Data.KeyMap — reading what was written into a map.

`Fields.find?_insert` is the law of a write: it shows under its name and
nowhere else. `Fields.find?_erase` is the law of taking a name out, and
`Fields.find?_filter` that of taking out what fails a test. A row with
different names, once written, shows each of them (`find?_ofList`), and it
does not matter which came first (`ofList_perm`). A row in
key order lists each name once (`Sorted.nodup`), and writing it anew yields
the row (`ofList_of_sorted`).
-/
import Mathlib.Data.List.Nodup
import ScriptHost.Data.KeyMap

namespace ScriptHost

namespace Fields

variable {α : Type} {fields : Fields α}

/-- **A write shows under its name and nowhere else.** -/
theorem find?_insert (key : String) (value : α) (k : String) :
    (fields.insert key value).find? k
      = if key = k then some value else fields.find? k := by
  induction fields with
  | nil => rfl
  | cons f rest ih =>
    obtain ⟨k', v'⟩ := f
    simp only [insert]
    split
    · rfl
    · split
      · rename_i heq
        subst heq
        by_cases hk : key = k
        · simp [find?, hk]
        · simp [find?, hk]
      · rename_i hne
        simp only [find?, ih]
        by_cases hk : k' = k
        · subst hk
          simp [hne]
        · simp [hk]

theorem mem_of_find? {key : String} {value : α}
    (h : fields.find? key = some value) : (key, value) ∈ fields := by
  induction fields with
  | nil => simp [find?] at h
  | cons f rest ih =>
    obtain ⟨k, v⟩ := f
    simp only [find?] at h
    split at h
    · rename_i heq
      rw [← heq, ← Option.some.inj h]
      exact List.mem_cons_self
    · exact List.mem_cons_of_mem _ (ih h)

theorem find?_isSome_of_mem {f : String × α} (h : f ∈ fields) :
    (fields.find? f.1).isSome = true := by
  induction fields with
  | nil => simp at h
  | cons f' rest ih =>
    simp only [find?]
    split
    · rfl
    · rename_i hne
      rcases List.mem_cons.mp h with rfl | hmem
      · exact absurd rfl hne
      · exact ih hmem

/-- Under different names, each field is found. -/
theorem find?_of_mem (h : (fields.map Prod.fst).Nodup) {f : String × α}
    (hf : f ∈ fields) : fields.find? f.1 = some f.2 := by
  induction fields with
  | nil => cases hf
  | cons f' rest ih =>
    obtain ⟨hnew, hrest⟩ := List.nodup_cons.mp h
    rcases List.mem_cons.mp hf with rfl | hmem
    · rw [find?, if_pos rfl]
    · have hne : f'.1 ≠ f.1 := fun heq =>
        hnew (List.mem_map.mpr ⟨f, hmem, heq.symm⟩)
      rw [find?, if_neg hne, ih hrest hmem]

theorem find?_of_ne {key : String} (h : ∀ f ∈ fields, f.1 ≠ key) :
    fields.find? key = none := by
  induction fields with
  | nil => rfl
  | cons f rest ih =>
    obtain ⟨hkey, hrest⟩ := List.forall_mem_cons.mp h
    rw [find?, if_neg hkey, ih hrest]

theorem find?_of_lt {key : String} (h : ∀ f ∈ fields, key < f.1) :
    fields.find? key = none :=
  find?_of_ne fun f hf => (String.ne_of_lt (h f hf)).symm

/-- **What is taken out of an ordered row is gone, and nothing else.** -/
theorem find?_erase (h : fields.Sorted) (key k : String) :
    (fields.erase key).find? k
      = if key = k then none else fields.find? k := by
  induction fields with
  | nil => exact (ite_self none).symm
  | cons f rest ih =>
    obtain ⟨k', v'⟩ := f
    obtain ⟨habove, hrest⟩ := List.pairwise_cons.mp h
    simp only [erase]
    split
    · rename_i heq
      subst heq
      by_cases hk : k' = k
      · subst hk
        rw [if_pos rfl, find?_of_lt habove]
      · rw [if_neg hk, find?, if_neg hk]
    · rename_i hne
      simp only [find?, ih hrest]
      by_cases hk : k' = k
      · subst hk
        rw [if_pos rfl, if_neg (Ne.symm hne), if_pos rfl]
      · rw [if_neg hk, if_neg hk]

/-- **What is left of an ordered row is found if its value passes the
test.** -/
theorem find?_filter (keep : α → Bool) (h : fields.Sorted) (k : String) :
    find? k (fields.filter fun f => keep f.2)
      = (fields.find? k).filter keep := by
  induction fields with
  | nil => rfl
  | cons f rest ih =>
    obtain ⟨k', v'⟩ := f
    obtain ⟨habove, hrest⟩ := List.pairwise_cons.mp h
    rw [List.filter_cons, find?]
    by_cases hk : k' = k
    · subst hk
      cases hkeep : keep v' with
      | true => simp [find?, Option.filter_some, hkeep]
      | false =>
        simp [ih hrest, find?_of_lt habove, Option.filter_some, hkeep]
    · cases hkeep : keep v' with
      | true => simp [find?, hk, ih hrest]
      | false => simp [hk, ih hrest]

theorem Sorted.nodup (h : fields.Sorted) : (fields.map Prod.fst).Nodup :=
  List.pairwise_map.mpr (h.imp fun hlt => String.ne_of_lt hlt)

/-! ## Writing in order -/

/-- A name above all others is written at the end. -/
theorem insert_last {key : String} (value : α)
    (h : ∀ f ∈ fields, f.1 < key) :
    fields.insert key value = fields ++ [(key, value)] := by
  induction fields with
  | nil => rfl
  | cons f rest ih =>
    obtain ⟨k, v⟩ := f
    obtain ⟨hk, hrest⟩ := List.forall_mem_cons.mp h
    have hnot : ¬ key < k := String.lt_asymm hk
    rw [insert, if_neg hnot, if_neg (String.ne_of_lt hk).symm, ih hrest]
    rfl

/-- A row that was written holds only what was written. -/
theorem mem_ofList {pairs : List (String × α)} {f : String × α}
    (h : f ∈ (ofList pairs : Fields α)) : f ∈ pairs := by
  suffices hgrow : ∀ acc : Fields α,
      f ∈ pairs.foldl (fun acc p => acc.insert p.1 p.2) acc →
      f ∈ acc ∨ f ∈ pairs from
    (hgrow [] h).resolve_left List.not_mem_nil
  clear h
  induction pairs with
  | nil => exact fun acc h => .inl h
  | cons p rest ih =>
    intro acc h
    rcases ih _ h with h | h
    · rcases mem_insert h with rfl | h
      · exact .inr List.mem_cons_self
      · exact .inl h
    · exact .inr (List.mem_cons_of_mem _ h)

/-- Of a row with different names, each field is found where it was
written. -/
theorem find?_ofList {pairs : List (String × α)}
    (h : (pairs.map Prod.fst).Nodup) (key : String) :
    (ofList pairs : Fields α).find? key = find? key pairs := by
  suffices hgrow : ∀ acc : Fields α,
      find? key (pairs.foldl (fun acc p => acc.insert p.1 p.2) acc)
        = (find? key pairs).or (find? key acc) by
    rw [ofList, hgrow [], find?, Option.or_none]
  induction pairs with
  | nil => exact fun acc => rfl
  | cons p rest ih =>
    intro acc
    obtain ⟨k, v⟩ := p
    obtain ⟨hnew, hrest⟩ := List.nodup_cons.mp h
    rw [List.foldl_cons, ih hrest, find?_insert]
    by_cases hk : k = key
    · subst hk
      have hnone : find? k rest = none := by
        by_contra hsome
        obtain ⟨v', hv'⟩ := Option.ne_none_iff_exists'.mp hsome
        exact hnew (List.mem_map.mpr ⟨_, mem_of_find? hv', rfl⟩)
      rw [hnone, if_pos rfl, find?, if_pos rfl]
      rfl
    · rw [if_neg hk, find?, if_neg hk]

/-- Writing a row in key order yields the row. -/
theorem ofList_of_sorted (h : fields.Sorted) : ofList fields = fields := by
  suffices hgrow : ∀ acc : Fields α, (acc ++ fields).Pairwise
      (fun a b => a.1 < b.1) →
      fields.foldl (fun acc p => acc.insert p.1 p.2) acc = acc ++ fields from
    hgrow [] h
  clear h
  induction fields with
  | nil => intro acc _; simp
  | cons f rest ih =>
    intro acc hacc
    have hlast : ∀ a ∈ acc, a.1 < f.1 := fun a ha =>
      (List.pairwise_append.mp hacc).2.2 a ha f List.mem_cons_self
    rw [List.foldl_cons, insert_last f.2 hlast,
      ih _ (by simpa using hacc), List.append_assoc]
    rfl

/-- Of a row with different names, everything is there. -/
theorem mem_ofList_iff {pairs : List (String × α)}
    (distinct : (pairs.map Prod.fst).Nodup) {f : String × α} :
    f ∈ (ofList pairs : Fields α) ↔ f ∈ pairs := by
  refine ⟨mem_ofList, fun hf => mem_of_find? ?_⟩
  rw [find?_ofList distinct, find?_of_mem distinct hf]

/-- The order in which different names are written does not matter. -/
theorem ofList_perm {pairs pairs' : List (String × α)}
    (perm : pairs.Perm pairs') (distinct : (pairs.map Prod.fst).Nodup) :
    (ofList pairs : Fields α) = ofList pairs' := by
  have distinct' := (perm.map Prod.fst).nodup_iff.mp distinct
  have sorted := ofList_sorted pairs
  have sorted' := ofList_sorted pairs'
  refine List.Perm.eq_of_pairwise (fun a b _ _ hlt hlt' =>
    absurd hlt' (String.lt_asymm hlt)) sorted sorted' ?_
  refine (List.perm_ext_iff_of_nodup (sorted.nodup.of_map _)
    (sorted'.nodup.of_map _)).mpr fun f => ?_
  rw [mem_ofList_iff distinct, mem_ofList_iff distinct', perm.mem_iff]

/-! ## Changing the values -/

variable {β : Type}

/-- A change of the values changes what is found. -/
theorem find?_map (f : α → β) (fields : Fields α) (key : String) :
    find? key (fields.map fun p => (p.1, f p.2))
      = (find? key fields).map f := by
  induction fields with
  | nil => rfl
  | cons p rest ih =>
    simp only [List.map_cons, find?, ih]
    split <;> rfl

theorem insert_map (f : α → β) (key : String) (value : α)
    (fields : Fields α) :
    (insert key value fields).map (fun p => (p.1, f p.2))
      = insert key (f value) (fields.map fun p => (p.1, f p.2)) := by
  induction fields with
  | nil => rfl
  | cons p rest ih =>
    simp only [List.map_cons, insert]
    split
    · rfl
    · split
      · rfl
      · rw [List.map_cons, ih]

theorem ofList_map (f : α → β) (pairs : List (String × α)) :
    (ofList pairs : Fields α).map (fun p => (p.1, f p.2))
      = ofList (pairs.map fun p => (p.1, f p.2)) := by
  suffices h : ∀ acc : Fields α,
      (pairs.foldl (fun acc p => insert p.1 p.2 acc) acc).map
          (fun p => (p.1, f p.2))
        = (pairs.map fun p => (p.1, f p.2)).foldl
          (fun acc p => insert p.1 p.2 acc)
          (acc.map fun p => (p.1, f p.2)) from h []
  induction pairs with
  | nil => exact fun _ => rfl
  | cons p rest ih =>
    intro acc
    rw [List.foldl_cons, ih, insert_map]
    rfl

end Fields

namespace KeyMap

variable {α : Type} (map : KeyMap α)

theorem get?_insert (key : String) (value : α) (k : String) :
    (map.insert key value).get? k
      = if key = k then some value else map.get? k :=
  Fields.find?_insert key value k

theorem get?_erase (key k : String) :
    (map.erase key).get? k = if key = k then none else map.get? k :=
  Fields.find?_erase map.sorted key k

theorem get?_filter (keep : α → Bool) (k : String) :
    (map.filter keep).get? k = (map.get? k).filter keep :=
  Fields.find?_filter keep map.sorted k

theorem mem_of_get? {key : String} {value : α}
    (h : map.get? key = some value) : (key, value) ∈ map.entries :=
  Fields.mem_of_find? h

theorem nodup_keys : map.keys.Nodup := map.sorted.nodup

/-- The keys are the names under which something stands. -/
theorem mem_keys_iff {key : String} :
    key ∈ map.keys ↔ (map.get? key).isSome = true := by
  constructor
  · intro h
    obtain ⟨f, hmem, rfl⟩ := List.mem_map.mp h
    exact Fields.find?_isSome_of_mem hmem
  · intro h
    obtain ⟨value, hvalue⟩ := Option.isSome_iff_exists.mp h
    exact List.mem_map.mpr ⟨_, map.mem_of_get? hvalue, rfl⟩

end KeyMap

end ScriptHost
