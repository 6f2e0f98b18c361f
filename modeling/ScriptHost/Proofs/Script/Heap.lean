/-
ScriptHost.Proofs.Script.Heap — the tables of a heap that grows.

A heap that only gets new tables `Extends` the old one. The equations say
what is in the new table (`table_alloc`), and that a change of one table
leaves the others (`table_modify`). Tables of data can as well be made after
such a change (`ofJson_modify`).
-/
import ScriptHost.Script.Heap

namespace ScriptHost

namespace Heap

/-! ## Growth -/

/-- All tables of the one heap are in the other, as they were. -/
structure Extends (h h' : Heap) : Prop where
  size_le : h.tables.size ≤ h'.tables.size
  table_eq : ∀ id, id < h.tables.size → h'.table id = h.table id

theorem Extends.refl (h : Heap) : h.Extends h :=
  ⟨Nat.le_refl _, fun _ _ => rfl⟩

theorem Extends.trans {a b c : Heap} (hab : a.Extends b) (hbc : b.Extends c) :
    a.Extends c := by
  refine ⟨Nat.le_trans hab.size_le hbc.size_le, ?_⟩
  intro id hid
  rw [hbc.table_eq id (Nat.lt_of_lt_of_le hid hab.size_le),
    hab.table_eq id hid]

theorem size_alloc (h : Heap) (t : Table) :
    (h.alloc t).2.tables.size = h.tables.size + 1 :=
  Array.size_push t

theorem alloc_extends (h : Heap) (t : Table) : h.Extends (h.alloc t).2 := by
  refine ⟨by rw [size_alloc]; omega, ?_⟩
  intro id hid
  simp [alloc, table, Array.getD_eq_getD_getElem?, Array.getElem?_push,
    Nat.ne_of_lt hid]

theorem table_alloc (h : Heap) (t : Table) :
    (h.alloc t).2.table h.tables.size = t := by
  simp [alloc, table, Array.getD_eq_getD_getElem?]

mutual
/-- **The value of data makes new tables alone.** -/
theorem ofJson_extends : ∀ (j : Json) (h : Heap), h.Extends (h.ofJson j).2
  | .null, h | .bool _, h | .int _, h | .float _, h | .str _, h => .refl h
  | .arr items, h => by
    rw [ofJson]
    exact (ofItems_extends items h).trans (alloc_extends _ _)
  | .obj fields, h => by
    rw [ofJson]
    exact (ofFields_extends fields h).trans (alloc_extends _ _)

theorem ofItems_extends :
    ∀ (items : List Json) (h : Heap), h.Extends (h.ofItems items).2
  | [], h => .refl h
  | j :: rest, h => by
    rw [ofItems]
    exact (ofJson_extends j h).trans (ofItems_extends rest _)

theorem ofFields_extends :
    ∀ (fields : List (String × Json)) (h : Heap),
      h.Extends (h.ofFields fields).2
  | [], h => .refl h
  | (k, j) :: rest, h => by
    rw [ofFields]
    exact (ofJson_extends j h).trans (ofFields_extends rest _)
end

/-- An object is in a new table. -/
theorem ofJson_obj (fields : List (String × Json)) (h : Heap) :
    ∃ id, h.tables.size ≤ id ∧ (h.ofJson (.obj fields)).1 = .table id := by
  rw [ofJson]
  exact ⟨_, (ofFields_extends fields h).size_le, rfl⟩

/-! ## Changes -/

theorem size_modify (h : Heap) (id : TableId) (f : Table → Table) :
    (h.modify id f).tables.size = h.tables.size :=
  Array.size_modify

theorem table_modify (h : Heap) (id : TableId) (f : Table → Table)
    (k : TableId) :
    (h.modify id f).table k
      = if id = k ∧ id < h.tables.size then f (h.table k) else h.table k := by
  simp only [table, modify, Array.getD_eq_getD_getElem?, Array.getElem?_modify]
  by_cases hk : id = k
  · subst hk
    by_cases hlt : id < h.tables.size
    · simp [hlt]
    · simp [hlt]
  · simp [hk]

/-- Whether an older table is changed before a new one is made, or after
that, is the same. -/
theorem alloc_modify {h : Heap} {id : TableId} (present : id < h.tables.size)
    (f : Table → Table) (t : Table) :
    (h.modify id f).alloc t = ((h.alloc t).1, (h.alloc t).2.modify id f) := by
  simp only [alloc, modify, Array.size_modify, Prod.mk.injEq, Heap.mk.injEq,
    true_and]
  refine Array.ext_getElem? fun i => ?_
  simp only [Array.getElem?_modify, Array.getElem?_push, Array.size_modify]
  by_cases hi : i = h.tables.size
  · rw [if_pos hi, if_neg (hi ▸ Nat.ne_of_lt present), if_pos hi]
  · rw [if_neg hi, if_neg hi]

mutual
/-- The same of the tables of data. -/
theorem ofJson_modify (f : Table → Table) {id : TableId} :
    ∀ (j : Json) {h : Heap}, id < h.tables.size →
      (h.modify id f).ofJson j
        = ((h.ofJson j).1, (h.ofJson j).2.modify id f)
  | .null, _, _ | .bool _, _, _ | .int _, _, _ | .float _, _, _
  | .str _, _, _ => rfl
  | .arr items, h, present => by
    have hlater := Nat.lt_of_lt_of_le present (ofItems_extends items h).size_le
    rw [ofJson, ofJson, ofItems_modify f items present]
    simp only [allocValue, alloc_modify hlater]
  | .obj fields, h, present => by
    have hlater :=
      Nat.lt_of_lt_of_le present (ofFields_extends fields h).size_le
    rw [ofJson, ofJson, ofFields_modify f fields present]
    simp only [allocValue, alloc_modify hlater]

theorem ofItems_modify (f : Table → Table) {id : TableId} :
    ∀ (items : List Json) {h : Heap}, id < h.tables.size →
      (h.modify id f).ofItems items
        = ((h.ofItems items).1, (h.ofItems items).2.modify id f)
  | [], _, _ => rfl
  | j :: rest, h, present => by
    have hlater := Nat.lt_of_lt_of_le present (ofJson_extends j h).size_le
    rw [ofItems, ofItems, ofJson_modify f j present]
    simp only [ofItems_modify f rest hlater]

theorem ofFields_modify (f : Table → Table) {id : TableId} :
    ∀ (fields : List (String × Json)) {h : Heap}, id < h.tables.size →
      (h.modify id f).ofFields fields
        = ((h.ofFields fields).1, (h.ofFields fields).2.modify id f)
  | [], _, _ => rfl
  | (_, j) :: rest, h, present => by
    have hlater := Nat.lt_of_lt_of_le present (ofJson_extends j h).size_le
    rw [ofFields, ofFields, ofJson_modify f j present]
    simp only [ofFields_modify f rest hlater]
end

/-- To change the newest table is to make it so. -/
theorem modify_alloc (h : Heap) (t : Table) (f : Table → Table) :
    (h.alloc t).2.modify h.tables.size f = (h.alloc (f t)).2 := by
  simp only [alloc, modify, Heap.mk.injEq]
  refine Array.ext_getElem? fun i => ?_
  simp only [Array.getElem?_modify, Array.getElem?_push]
  by_cases hi : i = h.tables.size
  · subst hi
    simp
  · simp [hi, Ne.symm hi]

end Heap

end ScriptHost
