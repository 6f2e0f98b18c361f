/-
ScriptHost.Proofs.Script.Table — reading what was written into a table.

`get_set` is the law of a write: it shows under its key and nowhere else.
`entries_ofPairs` says what a table holds that was filled with different
keys, one after another: just these entries in their order, without those
that are nil. A write leaves one entry for a key and none that is nil
(`Proper.set`), so this is so of every table that was filled.

The length of a table is a border of its items (`isBorder_border`), and may
be any of them (`exists_border`). Where there is a first item it is not 0,
and where there are no items it is.
-/
import Mathlib.Algebra.Group.Nat.Defs
import Mathlib.Data.List.Forall2
import Mathlib.Data.List.Nodup
import ScriptHost.Proofs.Text.Utf8
import ScriptHost.Script.Table

namespace ScriptHost

namespace Value

/-! ## Texts as keys -/

@[simp] theorem asKey_ofText (s : String) : (ofText s).asKey = ofText s := rfl

@[simp] theorem isKey_ofText (s : String) : (ofText s).isKey = true := rfl

@[simp] theorem ofText_inj {s t : String} : ofText s = ofText t ↔ s = t := by
  constructor
  · intro h
    exact Utf8.ofString_injective (Value.str.inj h)
  · rintro rfl
    rfl

theorem ofText?_eq_ofText {s? : Option String} {t : String} :
    ofText? s? = ofText t ↔ s? = some t := by
  cases s? with
  | none => exact ⟨nofun, nofun⟩
  | some s => exact ofText_inj.trans Option.some_inj.symm

@[simp] theorem isNil_iff (v : Value) : v.isNil = true ↔ v = .nil := by
  cases v <;> simp [isNil]

end Value

namespace Table

/-! ## Entries in a row -/

theorem find_put (key k v : Value) (es : List (Value × Value)) :
    find k (put key v es) = if k = key then v else find k es := by
  induction es with
  | nil =>
    by_cases h : k = key
    · simp [put, find, h]
    · simp [put, find, h, Ne.symm h]
  | cons e rest ih =>
    obtain ⟨k', v'⟩ := e
    simp only [put]
    split
    · rename_i h
      subst h
      by_cases hk : k = k'
      · simp [find, hk]
      · simp [find, hk, Ne.symm hk]
    · rename_i h
      simp only [find, ih]
      by_cases hk : k' = k
      · subst hk
        simp [h]
      · simp [hk]

theorem put_of_absent {key : Value} (v : Value) {es : List (Value × Value)}
    (h : key ∉ es.map Prod.fst) : put key v es = es ++ [(key, v)] := by
  induction es with
  | nil => rfl
  | cons e rest ih =>
    obtain ⟨k, w⟩ := e
    simp only [List.map_cons, List.mem_cons, not_or] at h
    rw [put, if_neg (Ne.symm h.1), ih h.2]
    rfl

theorem drop_of_absent {key : Value} {es : List (Value × Value)}
    (h : key ∉ es.map Prod.fst) : drop key es = es := by
  induction es with
  | nil => rfl
  | cons e rest ih =>
    obtain ⟨k, w⟩ := e
    simp only [List.map_cons, List.mem_cons, not_or] at h
    rw [drop, if_neg (Ne.symm h.1), ih h.2]

theorem find_of_absent {key : Value} {es : List (Value × Value)}
    (h : key ∉ es.map Prod.fst) : find key es = .nil := by
  induction es with
  | nil => rfl
  | cons e rest ih =>
    obtain ⟨k, w⟩ := e
    simp only [List.map_cons, List.mem_cons, not_or] at h
    rw [find, if_neg (Ne.symm h.1), ih h.2]

theorem find_of_mem {key v : Value} {es : List (Value × Value)}
    (distinct : (es.map Prod.fst).Nodup) (h : (key, v) ∈ es) :
    find key es = v := by
  induction es with
  | nil => simp at h
  | cons e rest ih =>
    obtain ⟨k, w⟩ := e
    rw [List.map_cons, List.nodup_cons] at distinct
    rcases List.mem_cons.mp h with heq | hmem
    · obtain ⟨rfl, rfl⟩ := Prod.mk.inj heq
      simp [find]
    · have hne : k ≠ key := by
        rintro rfl
        exact distinct.1 (List.mem_map.mpr ⟨_, hmem, rfl⟩)
      rw [find, if_neg hne, ih distinct.2 hmem]

/-- Which entry comes first does not matter where all keys are different. -/
theorem find_perm {es es' : List (Value × Value)} (perm : es.Perm es')
    (distinct : (es.map Prod.fst).Nodup) (key : Value) :
    find key es = find key es' := by
  by_cases hmem : key ∈ es.map Prod.fst
  · obtain ⟨⟨k, v⟩, he, rfl⟩ := List.mem_map.mp hmem
    rw [find_of_mem distinct he, find_of_mem
      ((perm.map Prod.fst).nodup_iff.mp distinct) (perm.subset he)]
  · rw [find_of_absent hmem, find_of_absent fun hmem' =>
      hmem ((perm.map Prod.fst).symm.subset hmem')]

/-! ## Tables -/

/-- **A write shows under its key and nowhere else.** -/
theorem get_set (t : Table) {key v : Value} (hk : key.isKey = true)
    (hv : v ≠ .nil) (k : Value) :
    (t.set key v).get k = if k.asKey = key.asKey then v else t.get k := by
  have hnil : v.isNil = false := by
    cases h : v.isNil with
    | true => exact absurd ((Value.isNil_iff v).mp h) hv
    | false => rfl
  simp only [set, hk, hnil, Bool.not_true, Bool.false_eq_true, if_false, get]
  exact find_put _ _ _ _

theorem set_mark (t : Table) (key v : Value) : (t.set key v).mark = t.mark := by
  unfold set
  split
  · rfl
  · split <;> rfl

/-- Entries that a table can hold under keys of its own. -/
structure Distinct (pairs : List (Value × Value)) : Prop where
  nodup : (pairs.map Prod.fst).Nodup
  own : ∀ p ∈ pairs, p.1.isKey = true ∧ p.1.asKey = p.1

theorem Distinct.tail {p : Value × Value} {rest : List (Value × Value)}
    (h : Distinct (p :: rest)) : Distinct rest :=
  ⟨(List.nodup_cons.mp h.nodup).2,
    fun q hq => h.own q (List.mem_cons_of_mem _ hq)⟩

/-- The keys of entries that are made for fields, each under its name. -/
theorem keys_of_forall₂ {α : Type}
    {made : Value × Value → String × α → Prop}
    (key : ∀ e f, made e f → e.1 = .ofText f.1)
    {entries : List (Value × Value)} {fields : List (String × α)}
    (all : List.Forall₂ made entries fields) :
    entries.map Prod.fst = (fields.map Prod.fst).map .ofText := by
  induction all with
  | nil => rfl
  | cons h _ ih => rw [List.map_cons, List.map_cons, List.map_cons, key _ _ h, ih]

/-- Different texts are different keys of their own. -/
theorem distinct_of_texts {entries : List (Value × Value)}
    {names : List String} (keys : entries.map Prod.fst = names.map .ofText)
    (nodup : names.Nodup) : Distinct entries := by
  have hinj : Function.Injective Value.ofText :=
    fun s t hst => Value.ofText_inj.mp hst
  refine ⟨by rw [keys]; exact nodup.map hinj, fun p hp => ?_⟩
  have hmem : p.1 ∈ entries.map Prod.fst := List.mem_map_of_mem hp
  rw [keys] at hmem
  obtain ⟨name, -, hname⟩ := List.mem_map.mp hmem
  rw [← hname]
  exact ⟨rfl, rfl⟩

/-- Writing entries of different keys, none of them in the table before. -/
theorem entries_foldl (pairs : List (Value × Value)) :
    ∀ t : Table, Distinct pairs →
      (∀ p ∈ pairs, p.1 ∉ t.entries.map Prod.fst) →
      (pairs.foldl (fun t p => t.set p.1 p.2) t).entries
        = t.entries ++ pairs.filter fun p => !p.2.isNil := by
  induction pairs with
  | nil => intro t _ _; simp
  | cons p rest ih =>
    intro t hd hnew
    obtain ⟨k, v⟩ := p
    obtain ⟨hkey, has⟩ := hd.own (k, v) List.mem_cons_self
    have hk : k ∉ t.entries.map Prod.fst := hnew (k, v) List.mem_cons_self
    have hnodup := (List.nodup_cons.mp hd.nodup).1
    rw [List.foldl_cons]
    cases hv : v.isNil with
    | true =>
      have hset : (t.set k v).entries = t.entries := by
        simp only at hkey has
        simp only [set, hkey, hv, Bool.not_true, Bool.false_eq_true,
          if_false, if_true, has]
        exact drop_of_absent hk
      rw [ih (t.set k v) hd.tail (fun q hq => by
        rw [hset]; exact hnew q (List.mem_cons_of_mem _ hq)), hset]
      simp [hv]
    | false =>
      have hset : (t.set k v).entries = t.entries ++ [(k, v)] := by
        simp only at hkey has
        simp only [set, hkey, hv, Bool.not_true, Bool.false_eq_true,
          if_false, has]
        exact put_of_absent v hk
      rw [ih (t.set k v) hd.tail (fun q hq => by
        rw [hset, List.map_append, List.mem_append, not_or]
        refine ⟨hnew q (List.mem_cons_of_mem _ hq), ?_⟩
        intro hmem
        simp only [List.map_cons, List.map_nil, List.mem_singleton] at hmem
        exact hnodup (List.mem_map.mpr ⟨q, hq, hmem⟩)), hset]
      simp [hv]

/-- **What a filled table holds.** -/
theorem entries_ofPairs {pairs : List (Value × Value)} (h : Distinct pairs) :
    (ofPairs pairs).entries = pairs.filter fun p => !p.2.isNil := by
  rw [ofPairs, entries_foldl pairs {} h (by simp)]
  rfl

/-- What the empty table has and every write keeps, a filled table has. -/
theorem ofPairs_induction {P : Table → Prop} {pairs : List (Value × Value)}
    (empty : P {}) (write : ∀ t, P t → ∀ p ∈ pairs, P (t.set p.1 p.2)) :
    P (ofPairs pairs) :=
  List.foldlRecOn pairs _ empty write

theorem mark_ofPairs (pairs : List (Value × Value)) :
    (ofPairs pairs).mark = .plain :=
  ofPairs_induction (P := fun t => t.mark = .plain) rfl
    fun t ht p _ => (t.set_mark p.1 p.2).trans ht

/-! ## Proper tables -/

/-- There is one entry for a key, and none is nil. -/
structure Proper (t : Table) : Prop where
  nodup : (t.entries.map Prod.fst).Nodup
  present : ∀ e ∈ t.entries, e.2 ≠ .nil

theorem keys_put (key v : Value) (es : List (Value × Value)) :
    (put key v es).map Prod.fst
      = if key ∈ es.map Prod.fst then es.map Prod.fst
        else es.map Prod.fst ++ [key] := by
  induction es with
  | nil => rfl
  | cons e rest ih =>
    obtain ⟨k, w⟩ := e
    by_cases hk : k = key
    · simp [put, hk]
    · rw [put, if_neg hk, List.map_cons, ih]
      simp only [List.map_cons, List.mem_cons, Ne.symm hk, false_or]
      split <;> rfl

theorem mem_put {key v : Value} {es : List (Value × Value)}
    {e : Value × Value} (h : e ∈ put key v es) : e = (key, v) ∨ e ∈ es := by
  induction es with
  | nil => exact .inl (List.mem_singleton.mp h)
  | cons e' rest ih =>
    obtain ⟨k, w⟩ := e'
    rw [put] at h
    split at h
    · exact (List.mem_cons.mp h).imp_right (List.mem_cons_of_mem _)
    · rcases List.mem_cons.mp h with rfl | h
      · exact .inr List.mem_cons_self
      · exact (ih h).imp_right (List.mem_cons_of_mem _)

theorem drop_sublist (key : Value) (es : List (Value × Value)) :
    (drop key es).Sublist es := by
  induction es with
  | nil => exact .refl _
  | cons e rest ih =>
    obtain ⟨k, w⟩ := e
    rw [drop]
    split
    · exact List.sublist_cons_self _ _
    · exact ih.cons_cons _

/-- A table holds no keys but those that it held and the one that was
written. -/
theorem mem_keys_set {t : Table} {key v k : Value}
    (h : k ∈ (t.set key v).entries.map Prod.fst) :
    k ∈ t.entries.map Prod.fst ∨ k = key.asKey := by
  unfold Table.set at h
  split at h
  · exact .inl h
  split at h
  · exact .inl (((drop_sublist _ _).map _).subset h)
  · simp only [keys_put] at h
    split at h
    · exact .inl h
    · simpa using h

/-- **A write leaves a table proper.** -/
theorem Proper.set {t : Table} (proper : t.Proper) (key v : Value) :
    (t.set key v).Proper := by
  unfold Table.set
  split
  · exact proper
  split
  · have hsub := drop_sublist key.asKey t.entries
    exact ⟨proper.nodup.sublist (hsub.map _),
      fun e he => proper.present e (hsub.subset he)⟩
  · next hv =>
    refine ⟨?_, fun e he => ?_⟩
    · rw [keys_put]
      split
      · exact proper.nodup
      · next habsent =>
        rw [← List.concat_eq_append]
        exact proper.nodup.concat habsent
    · rcases mem_put he with rfl | he
      · exact fun hnil => hv ((Value.isNil_iff v).mpr hnil)
      · exact proper.present e he

/-- So every table is proper that was filled, whatever was written. -/
theorem proper_ofPairs (pairs : List (Value × Value)) :
    (ofPairs pairs).Proper :=
  ofPairs_induction ⟨List.nodup_nil, nofun⟩ fun _ ht p _ => ht.set p.1 p.2

/-- A table holds only keys that were written. -/
theorem mem_keys_ofPairs {pairs : List (Value × Value)} :
    ∀ key ∈ (ofPairs pairs).entries.map Prod.fst,
      ∃ p ∈ pairs, key = p.1.asKey := by
  refine ofPairs_induction (P := fun t => ∀ key ∈ t.entries.map Prod.fst,
    ∃ p ∈ pairs, key = p.1.asKey) nofun fun t ht p hp key hkey => ?_
  obtain hkey | hkey := mem_keys_set hkey
  · exact ht key hkey
  · exact ⟨p, hp, hkey⟩

/-! ## Items -/

/-- The keys of items are their numbers. -/
theorem mem_keys_enumerate {items : List Value} {s : Nat} {key : Value}
    (h : key ∈ (enumerate s items).map Prod.fst) :
    ∃ i, i < items.length ∧ key = .int (Int64.ofNat (s + i)) := by
  induction items generalizing s with
  | nil => cases h
  | cons v rest ih =>
    have later (h : key ∈ (enumerate (s + 1) rest).map Prod.fst) :
        ∃ i, i < (v :: rest).length ∧ key = .int (Int64.ofNat (s + i)) := by
      obtain ⟨i, hi, rfl⟩ := ih h
      exact ⟨i + 1, by simpa using hi, by rw [Nat.add_right_comm]; rfl⟩
    unfold enumerate at h
    split at h
    · exact later h
    · rcases List.mem_cons.mp h with rfl | h
      · exact ⟨0, by simp, rfl⟩
      · exact later h

/-- A table of items holds nothing but items. -/
theorem mem_keys_ofItems {mark : Mark} {items : List Value} {key : Value}
    (h : key ∈ (ofItems mark items).entries.map Prod.fst) :
    ∃ i, i < items.length ∧ key = .int (Int64.ofNat (1 + i)) := by
  obtain ⟨p, hp, rfl⟩ := mem_keys_ofPairs _ h
  obtain ⟨i, hi, hkey⟩ := mem_keys_enumerate (List.mem_map_of_mem hp)
  exact ⟨i, hi, by rw [hkey]; rfl⟩

/-- A table of items is proper. -/
theorem proper_ofItems (mark : Mark) (items : List Value) :
    (ofItems mark items).Proper :=
  ⟨(proper_ofPairs _).nodup, (proper_ofPairs _).present⟩

/-! ## Length -/

/-- The number of an item, or 0, with no item behind it. -/
structure IsBorder (t : Table) (n : Nat) : Prop where
  item : 0 < n → t.hasItem n = true
  gap : t.hasItem (n + 1) = false

section Length

variable {t : Table} {n : Nat}

theorem hasItem_iff : t.hasItem n = true ↔ 1 ≤ n ∧ n ≤ Word.maxSigned
    ∧ t.get (.int (Int64.ofNat n)) ≠ .nil := by
  rw [hasItem]
  simp [and_assoc, ← Value.isNil_iff]

theorem hasItem_of_gt (h : Word.maxSigned < n) : t.hasItem n = false :=
  Bool.eq_false_iff.mpr fun hitem =>
    absurd (hasItem_iff.mp hitem).2.1 (Int.not_le.mpr h)

/-- What holds no integers has no items. -/
theorem hasItem_of_no_int
    (h : ∀ i, Value.int i ∉ t.entries.map Prod.fst) (n : Nat) :
    t.hasItem n = false := by
  have hget : t.get (.int (Int64.ofNat n)) = .nil := find_of_absent (h _)
  simp [hasItem, hget, Value.isNil]

/-- A search by halves has the halves that it needs. -/
theorem width_le (low high : Nat) : high - low ≤ 2 ^ (high.log2 + 1) :=
  Nat.le_trans (Nat.sub_le _ _) (Nat.le_of_lt Nat.lt_log2_self)

/-- A search by halves ends at a border. -/
theorem isBorder_bisect {fuel low high : Nat} (hlt : low < high)
    (width : high - low ≤ 2 ^ fuel) (item : 0 < low → t.hasItem low = true)
    (gap : t.hasItem high = false) : t.IsBorder (t.bisect fuel low high) := by
  induction fuel generalizing low high with
  | zero =>
    obtain rfl : high = low + 1 := by rw [Nat.pow_zero] at width; omega
    exact ⟨item, gap⟩
  | succ fuel ih =>
    rw [Nat.pow_succ] at width
    rw [bisect]
    split
    · obtain rfl : high = low + 1 := by omega
      exact ⟨item, gap⟩
    · dsimp only
      cases hmiddle : t.hasItem ((low + high) / 2) with
      | true => exact ih (by omega) (by omega) (fun _ => hmiddle) gap
      | false => exact ih (by omega) (by omega) item hmiddle

/-- A search by doubling ends at a border, if the number may be doubled until
it meets the largest integer. -/
theorem isBorder_ascend {fuel : Nat} (item : t.hasItem n = true)
    (far : Word.maxSigned.toNat ≤ n * 2 ^ fuel) :
    t.IsBorder (t.ascend fuel n) := by
  induction fuel generalizing n with
  | zero =>
    rw [Nat.pow_zero, Nat.mul_one] at far
    rw [ascend]
    exact ⟨fun _ => item, hasItem_of_gt (by omega)⟩
  | succ fuel ih =>
    rw [ascend]
    cases hnext : t.hasItem (min (2 * n) Word.maxSigned.toNat) with
    | true =>
      refine ih hnext ?_
      rw [Nat.pow_succ, Nat.mul_comm _ 2, ← Nat.mul_assoc,
        Nat.mul_comm n] at far
      rcases Nat.le_total (2 * n) Word.maxSigned.toNat with hle | hle
      · rwa [Nat.min_eq_left hle]
      · rw [Nat.min_eq_right hle]
        exact Nat.le_mul_of_pos_right _ (Nat.two_pow_pos fuel)
    | false =>
      obtain ⟨hpos, hmax, -⟩ := hasItem_iff.mp item
      have hne : n ≠ Word.maxSigned.toNat := by
        rintro rfl
        rw [Nat.min_eq_right (by omega)] at hnext
        cases item.symm.trans hnext
      exact isBorder_bisect (by omega) (width_le _ _) (fun _ => item) hnext

/-- **The length of a table is a border.** -/
theorem isBorder_border (t : Table) : t.IsBorder t.border := by
  unfold border
  generalize t.storage.row = last
  dsimp only
  split
  · next hlast =>
    simp only [Bool.and_eq_true, decide_eq_true_eq, Bool.not_eq_true'] at hlast
    obtain ⟨hpos, hgap⟩ := hlast
    split
    · next hbefore =>
      exact ⟨fun _ => hbefore, by rwa [Nat.sub_add_cancel hpos]⟩
    · exact isBorder_bisect hpos (width_le _ _) nofun hgap
  · next hlast =>
    have item : 0 < last → t.hasItem last = true := by
      simpa using hlast
    split
    · next hbehind =>
      rcases Nat.eq_zero_or_pos last with rfl | hpos
      · exact isBorder_ascend hbehind (by decide)
      · rw [Nat.max_eq_left hpos]
        refine isBorder_ascend (item hpos) ?_
        exact Nat.le_trans (by decide) (Nat.le_mul_of_pos_left (2 ^ 63) hpos)
    · next hgap => exact ⟨item, Bool.eq_false_iff.mpr hgap⟩

/-- **Every border is the length with some storage.** -/
theorem exists_border (border : t.IsBorder n) :
    ∃ storage, ({ t with storage } : Table).border = n := by
  refine ⟨{ row := n }, ?_⟩
  have hitem : (0 < n && !t.hasItem n) = false := by
    rw [Bool.and_eq_false_imp]
    intro hpos
    rw [border.item (of_decide_eq_true hpos)]
    rfl
  show (if (0 < n && !t.hasItem n) = true then _ else
    if t.hasItem (n + 1) = true then _ else n) = n
  rw [hitem, border.gap]
  rfl

/-- Behind every item there is a border. -/
theorem exists_isBorder (item : t.hasItem n = true) :
    ∃ m, t.IsBorder m ∧ 0 < m := by
  suffices hfrom : ∀ k n, t.hasItem n = true → Word.maxSigned.toNat ≤ n + k →
      ∃ m, t.IsBorder m ∧ 0 < m from
    hfrom Word.maxSigned.toNat n item (Nat.le_add_left _ _)
  intro k
  induction k with
  | zero =>
    intro n item far
    exact ⟨n, ⟨fun _ => item, hasItem_of_gt (by omega)⟩,
      (hasItem_iff.mp item).1⟩
  | succ k ih =>
    intro n item far
    cases hnext : t.hasItem (n + 1) with
    | true => exact ih (n + 1) hnext (by omega)
    | false => exact ⟨n, ⟨fun _ => item, hnext⟩, (hasItem_iff.mp item).1⟩

/-- A table with a first item has a length. -/
theorem border_pos (first : t.hasItem 1 = true) : 0 < t.border := by
  rcases Nat.eq_zero_or_pos t.border with hzero | hpos
  · have hgap := t.isBorder_border.gap
    rw [hzero] at hgap
    cases first.symm.trans hgap
  · exact hpos

/-- A table without items has none. -/
theorem border_eq_zero (none : ∀ n, t.hasItem n = false) : t.border = 0 := by
  rcases Nat.eq_zero_or_pos t.border with hzero | hpos
  · exact hzero
  · cases (none _).symm.trans (t.isBorder_border.item hpos)

end Length

/-- A table under texts alone has no items. -/
theorem not_sequence_of_texts {entries : List (Value × Value)}
    {names : List String} (keys : entries.map Prod.fst = names.map .ofText) :
    (ofPairs entries).isSequence = false := by
  have hnone : ∀ n, (ofPairs entries).hasItem n = false := by
    refine hasItem_of_no_int fun i hmem => ?_
    obtain ⟨p, hp, hkey⟩ := mem_keys_ofPairs _ hmem
    have hname : p.1 ∈ names.map .ofText := keys ▸ List.mem_map_of_mem hp
    obtain ⟨name, -, hname⟩ := List.mem_map.mp hname
    rw [← hname] at hkey
    cases hkey
  simp [isSequence, mark_ofPairs, border_eq_zero hnone]

end Table

end ScriptHost
