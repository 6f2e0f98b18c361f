/-
ScriptHost.Proofs.Script.Alike — values that hold the same.

Two values are `Alike` when a script that walks through both finds the same
everywhere; only the identities of their tables may differ. A value `Holds`
data if it is the value that was built for the data at some time. Values of
the same data are alike (`Holds.alike`), whichever interpreters they are in,
and behind a row of names a value holds what lies there in the data
(`Holds.path`).

Values that scripts have filled may hold themselves, and tables may be keys.
They have the `SameContent` if some relation between the tables here and
there keeps to their entries, whose order does not count (`Table.Matches`):
related tables read the same under all that is no table
(`Table.Matches.get`), item by item (`Table.Matches.items`). Whether a table
counts as an array may still be up to its length, and so to the order in
which it was filled: just where it has items but not the first one
(`Table.Settled`, `Table.exists_isSequence`).
-/
import Mathlib.Data.List.Forall2
import ScriptHost.Config.View
import ScriptHost.Proofs.Data.KeyMap
import ScriptHost.Proofs.Json.Normal
import ScriptHost.Proofs.Script.Heap
import ScriptHost.Proofs.Script.Table

namespace ScriptHost

/-! ## Texts among the keys of a table -/

namespace Table

/-- Entries that are nil are as good as absent. -/
theorem find_filter {es : List (Value × Value)}
    (distinct : (es.map Prod.fst).Nodup) (key : Value) :
    find key (es.filter fun e => !e.2.isNil) = find key es := by
  induction es with
  | nil => rfl
  | cons e rest ih =>
    obtain ⟨k, v⟩ := e
    rw [List.map_cons, List.nodup_cons] at distinct
    cases hv : v.isNil with
    | false => simp [hv, find, ih distinct.2]
    | true =>
      rw [List.filter_cons_of_neg (by simp [hv]), ih distinct.2, find]
      split
      · next heq =>
        rw [(Value.isNil_iff v).mp hv, ← heq]
        exact find_of_absent distinct.1
      · rfl

/-- The items of an array are under no text. -/
theorem get_ofItems_text (mark : Mark) (items : List Value) (name : String) :
    (ofItems mark items).get (.ofText name) = .nil := by
  refine find_of_absent fun hmem => ?_
  obtain ⟨i, -, hkey⟩ := mem_keys_ofItems hmem
  cases hkey

end Table

namespace Heap

variable {h h' k k' : Heap} {v v' : Value}

/-! ## Values that are alike -/

/-- The same value, or tables with the same mark that hold alike values under
every key. -/
inductive Alike (h h' : Heap) : Value → Value → Prop
  | scalar {v : Value} (hv : ∀ id, v ≠ .table id) : Alike h h' v v
  | table {id id' : TableId} (present : id < h.tables.size)
      (present' : id' < h'.tables.size)
      (mark : (h.table id).mark = (h'.table id').mark)
      (entry : ∀ key, Alike h h' ((h.table id).get key)
        ((h'.table id').get key)) :
      Alike h h' (.table id) (.table id')

theorem Alike.mono (alike : Alike h h' v v') (hext : h.Extends k)
    (hext' : h'.Extends k') : Alike k k' v v' := by
  induction alike with
  | scalar hv => exact .scalar hv
  | table present present' mark _ ih =>
    have htable := hext.table_eq _ present
    have htable' := hext'.table_eq _ present'
    refine .table (Nat.lt_of_lt_of_le present hext.size_le)
      (Nat.lt_of_lt_of_le present' hext'.size_le) ?_ ?_
    · rw [htable, htable', mark]
    · rw [htable, htable']
      exact ih

theorem Alike.isNil (alike : Alike h h' v v') : v.isNil = v'.isNil := by
  cases alike <;> rfl

/-- Entries under the same key with alike values. -/
def AlikeEntry (h h' : Heap) (e e' : Value × Value) : Prop :=
  e.1 = e'.1 ∧ Alike h h' e.2 e'.2

section Entries

variable {es es' : List (Value × Value)}

theorem alike_find (alike : List.Forall₂ (AlikeEntry h h') es es')
    (key : Value) : Alike h h' (Table.find key es) (Table.find key es') := by
  induction alike with
  | nil => exact .scalar nofun
  | @cons e e' _ _ he _ ih =>
    obtain ⟨hkey, hvalue⟩ := he
    simp only [Table.find, ← hkey]
    split
    · exact hvalue
    · exact ih

theorem alike_put (alike : List.Forall₂ (AlikeEntry h h') es es')
    (key : Value) (hv : Alike h h' v v') :
    List.Forall₂ (AlikeEntry h h') (Table.put key v es)
      (Table.put key v' es') := by
  induction alike with
  | nil => exact .cons ⟨rfl, hv⟩ .nil
  | @cons e e' _ _ he hrest ih =>
    obtain ⟨hkey, hvalue⟩ := he
    simp only [Table.put, ← hkey]
    split
    · exact .cons ⟨rfl, hv⟩ hrest
    · exact .cons ⟨rfl, hvalue⟩ ih

theorem alike_drop (alike : List.Forall₂ (AlikeEntry h h') es es')
    (key : Value) :
    List.Forall₂ (AlikeEntry h h') (Table.drop key es)
      (Table.drop key es') := by
  induction alike with
  | nil => exact .nil
  | @cons e e' _ _ he hrest ih =>
    obtain ⟨hkey, hvalue⟩ := he
    simp only [Table.drop, ← hkey]
    split
    · exact hrest
    · exact .cons ⟨rfl, hvalue⟩ ih

theorem alike_set {t t' : Table}
    (alike : List.Forall₂ (AlikeEntry h h') t.entries t'.entries)
    (key : Value) (hv : Alike h h' v v') :
    List.Forall₂ (AlikeEntry h h') (t.set key v).entries
      (t'.set key v').entries := by
  unfold Table.set
  rw [hv.isNil]
  split
  · exact alike
  · split
    · exact alike_drop alike _
    · exact alike_put alike _ hv

/-- Tables that are filled alike. -/
theorem alike_ofPairs (alike : List.Forall₂ (AlikeEntry h h') es es') :
    List.Forall₂ (AlikeEntry h h') (Table.ofPairs es).entries
      (Table.ofPairs es').entries := by
  suffices hfill : ∀ t t' : Table,
      List.Forall₂ (AlikeEntry h h') t.entries t'.entries →
      List.Forall₂ (AlikeEntry h h')
        (es.foldl (fun t p => t.set p.1 p.2) t).entries
        (es'.foldl (fun t p => t.set p.1 p.2) t').entries from
    hfill {} {} .nil
  induction alike with
  | nil => exact fun _ _ ht => ht
  | @cons e e' _ _ he _ ih =>
    intro t t' ht
    obtain ⟨hkey, hvalue⟩ := he
    rw [List.foldl_cons, List.foldl_cons, ← hkey]
    exact ih _ _ (alike_set ht e.1 hvalue)

theorem alike_enumerate {values values' : List Value}
    (alike : List.Forall₂ (Alike h h') values values') (s : Nat) :
    List.Forall₂ (AlikeEntry h h') (Table.enumerate s values)
      (Table.enumerate s values') := by
  induction alike generalizing s with
  | nil => exact .nil
  | @cons v v' _ _ hv _ ih =>
    simp only [Table.enumerate, hv.isNil]
    split
    · exact ih (s + 1)
    · exact .cons ⟨rfl, hv⟩ (ih (s + 1))

/-- New tables with alike entries are alike. -/
theorem alike_alloc {t t' : Table} (mark : t.mark = t'.mark)
    (alike : List.Forall₂ (AlikeEntry h h') t.entries t'.entries) :
    Alike (h.alloc t).2 (h'.alloc t').2 (.table h.tables.size)
      (.table h'.tables.size) := by
  refine .table (by rw [size_alloc]; exact Nat.lt_succ_self _)
    (by rw [size_alloc]; exact Nat.lt_succ_self _) ?_ fun key => ?_
  · rw [table_alloc, table_alloc, mark]
  · rw [table_alloc, table_alloc]
    exact (alike_find alike _).mono (alloc_extends _ _) (alloc_extends _ _)

end Entries

/-! ## Values of the same data -/

theorem ofInt_ne_table (i : Int) (id : TableId) :
    Value.ofInt i ≠ .table id := by
  unfold Value.ofInt
  split <;> exact nofun

/-- The values of `j`, wherever they are built, are alike. -/
def BuildsAlike (j : Json) : Prop :=
  ∀ h h' : Heap, Alike (h.ofJson j).2 (h'.ofJson j).2 (h.ofJson j).1
    (h'.ofJson j).1

theorem alike_ofItems {items : List Json}
    (builds : ∀ j ∈ items, BuildsAlike j) :
    ∀ h h' : Heap, List.Forall₂ (Alike (h.ofItems items).2
      (h'.ofItems items).2) (h.ofItems items).1 (h'.ofItems items).1 := by
  induction items with
  | nil => exact fun _ _ => .nil
  | cons j rest ih =>
    intro h h'
    obtain ⟨hj, hrest⟩ := List.forall_mem_cons.mp builds
    rw [ofItems, ofItems]
    exact .cons ((hj h h').mono (ofItems_extends rest _)
      (ofItems_extends rest _)) (ih hrest _ _)

theorem alike_ofFields {fields : List (String × Json)}
    (builds : ∀ f ∈ fields, BuildsAlike f.2) :
    ∀ h h' : Heap, List.Forall₂ (AlikeEntry (h.ofFields fields).2
      (h'.ofFields fields).2) (h.ofFields fields).1
      (h'.ofFields fields).1 := by
  induction fields with
  | nil => exact fun _ _ => .nil
  | cons f rest ih =>
    intro h h'
    obtain ⟨hj, hrest⟩ := List.forall_mem_cons.mp builds
    rw [ofFields, ofFields]
    exact .cons ⟨rfl, (hj h h').mono (ofFields_extends rest _)
      (ofFields_extends rest _)⟩ (ih hrest _ _)

/-- **Values of the same data are alike.** -/
theorem alike_ofJson (j : Json) : BuildsAlike j := by
  induction j with
  | null | bool | float | str => exact fun _ _ => .scalar nofun
  | int i => exact fun _ _ => .scalar (ofInt_ne_table i)
  | arr items ih =>
    intro h h'
    rw [ofJson, ofJson]
    exact alike_alloc rfl
      (alike_ofPairs (alike_enumerate (alike_ofItems ih h h') 1))
  | obj fields ih =>
    intro h h'
    rw [ofJson, ofJson]
    exact alike_alloc
      ((Table.mark_ofPairs _).trans (Table.mark_ofPairs _).symm)
      (alike_ofPairs (alike_ofFields ih h h'))

/-- The value was built for the data at some time. -/
def Holds (h : Heap) (v : Value) (j : Json) : Prop :=
  ∃ before : Heap, v = (before.ofJson j).1 ∧ (before.ofJson j).2.Extends h

theorem holds_ofJson (h : Heap) (j : Json) :
    (h.ofJson j).2.Holds (h.ofJson j).1 j := ⟨h, rfl, .refl _⟩

theorem Holds.mono {j : Json} (hv : h.Holds v j) (hext : h.Extends k) :
    k.Holds v j := by
  obtain ⟨before, rfl, hbefore⟩ := hv
  exact ⟨before, rfl, hbefore.trans hext⟩

theorem Holds.alike {j : Json} (hv : h.Holds v j) (hv' : h'.Holds v' j) :
    Alike h h' v v' := by
  obtain ⟨before, rfl, hbefore⟩ := hv
  obtain ⟨before', rfl, hbefore'⟩ := hv'
  exact (alike_ofJson j before before').mono hbefore hbefore'

/-! ## Behind a row of names -/

/-- An entry holds a field. -/
def HoldsField (h : Heap) (e : Value × Value) (f : String × Json) : Prop :=
  e.1 = .ofText f.1 ∧ h.Holds e.2 f.2

theorem holds_ofFields (fields : List (String × Json)) :
    ∀ h : Heap, List.Forall₂ (h.ofFields fields).2.HoldsField
      (h.ofFields fields).1 fields := by
  induction fields with
  | nil => exact fun _ => .nil
  | cons f rest ih =>
    intro h
    rw [ofFields]
    exact .cons ⟨rfl, (holds_ofJson h f.2).mono (ofFields_extends rest _)⟩
      (ih _)

/-- What is found under a name. -/
def HoldsFound (h : Heap) (v : Value) : Option Json → Prop
  | some j => h.Holds v j
  | none => v = .nil

theorem HoldsFound.mono {found : Option Json} (hv : h.HoldsFound v found)
    (hext : h.Extends k) : k.HoldsFound v found := by
  cases found with
  | some j => exact Holds.mono hv hext
  | none => exact hv

theorem holds_find {es : List (Value × Value)}
    {fields : List (String × Json)}
    (holds : List.Forall₂ h.HoldsField es fields) (name : String) :
    h.HoldsFound (Table.find (.ofText name) es)
      (Fields.find? name fields) := by
  induction holds with
  | nil => exact rfl
  | @cons e f _ _ he _ ih =>
    obtain ⟨hkey, hvalue⟩ := he
    simp only [Table.find, Fields.find?, hkey, Value.ofText_inj]
    split
    · exact hvalue
    · exact ih

/-- A new table holds what it was made with. -/
theorem rawGet_newest {t : Table} (hext : (h.alloc t).2.Extends k)
    (key : Value) : k.rawGet (.table h.tables.size) key = t.get key := by
  have htable := hext.table_eq h.tables.size
    (by rw [size_alloc]; exact Nat.lt_succ_self _)
  show (k.table h.tables.size).get key = _
  rw [htable, table_alloc]

theorem rawGet_scalar (h : Heap) (hv : ∀ id, v ≠ .table id) (key : Value) :
    h.rawGet v key = .nil := by
  cases v with
  | table id => exact absurd rfl (hv id)
  | nil | bool | int | float | str | func | handle | null => rfl

/-- Under a name stands the field of the data. -/
theorem Holds.field {j : Json} (hv : h.Holds v j) (ordered : j.Ordered)
    (name : String) :
    h.HoldsFound (h.rawGet v (.ofText name)) (j.field? name) := by
  obtain ⟨before, rfl, hbefore⟩ := hv
  cases j with
  | null | bool | float | str => exact rfl
  | int i => exact rawGet_scalar h (ofInt_ne_table i) _
  | arr items =>
    rw [ofJson] at hbefore ⊢
    exact (rawGet_newest hbefore _).trans (Table.get_ofItems_text _ _ name)
  | obj fields =>
    rw [ofJson] at hbefore ⊢
    obtain ⟨sorted, -⟩ := Json.ordered_obj.mp ordered
    have holds := holds_ofFields fields before
    have distinct := Table.distinct_of_texts
      (Table.keys_of_forall₂ (fun _ _ => And.left) holds) sorted.nodup
    have hget : h.rawGet (.table (before.ofFields fields).2.tables.size)
          (.ofText name)
        = Table.find (.ofText name) (before.ofFields fields).1 := by
      rw [rawGet_newest hbefore, Table.get, Table.entries_ofPairs distinct,
        Table.find_filter distinct.nodup]
      rfl
    show h.HoldsFound (h.rawGet (.table _) _) _
    rw [hget]
    exact (holds_find holds name).mono ((alloc_extends _ _).trans hbefore)

/-- A field of data in order is in order. -/
theorem ordered_field? {j j' : Json} (ordered : j.Ordered) {name : String}
    (h : j.field? name = some j') : j'.Ordered := by
  cases j with
  | obj fields =>
    exact (Json.ordered_obj.mp ordered).2 _ (Fields.mem_of_find? h)
  | null | bool | int | float | str | arr => cases h

/-- **Behind a row of names lies what lies there in the data.** -/
theorem Holds.path {j : Json} (hv : h.Holds v j) (ordered : j.Ordered)
    (names : List String) :
    h.HoldsFound ((names.map .ofText).foldl h.rawGet v)
      (Config.follow? j names) := by
  induction names generalizing v j with
  | nil => exact hv
  | cons name rest ih =>
    have hfield := hv.field ordered name
    rw [List.map_cons, List.foldl_cons]
    cases hfound : j.field? name with
    | some j' =>
      rw [hfound] at hfield
      have hrest := ih hfield (ordered_field? ordered hfound)
      simpa [Config.follow?, hfound] using hrest
    | none =>
      rw [hfound] at hfield
      have hnil : h.rawGet v (.ofText name) = .nil := hfield
      have hrest : ∀ keys : List Value, keys.foldl h.rawGet .nil = .nil := by
        intro keys
        induction keys with
        | nil => rfl
        | cons key keys ih => exact ih
      rw [hnil, hrest]
      simp [Config.follow?, hfound, HoldsFound]

end Heap

/-! ## Values of the same content -/

section Content

variable {R : TableId → TableId → Prop}

/-- The same value, or tables that are related. -/
def Value.Matches (R : TableId → TableId → Prop) : Value → Value → Prop
  | .table id, .table id' => R id id'
  | v, v' => v = v'

theorem Value.Matches.scalar {v v' : Value} (same : v.Matches R v')
    (hv : ∀ id, v ≠ .table id) : v = v' := by
  cases v with
  | table id => exact absurd rfl (hv id)
  | _ => exact same

theorem Value.Matches.scalar' {v v' : Value} (same : v.Matches R v')
    (hv : ∀ id, v' ≠ .table id) : v = v' := by
  cases v' with
  | table id => exact absurd rfl (hv id)
  | _ => cases v <;> exact same

theorem Value.Matches.isNil {v v' : Value} (same : v.Matches R v') :
    v.isNil = v'.isNil := by
  cases v <;> cases v' <;> first | rfl | cases same

theorem Value.Matches.symm {v v' : Value} (same : v.Matches R v') :
    v'.Matches (flip R) v := by
  cases v <;> cases v' <;> first | exact same | exact Eq.symm same

/-- Entries with the same key and the same value, up to related tables. -/
def Table.EntryMatches (R : TableId → TableId → Prop)
    (e e' : Value × Value) : Prop :=
  e.1.Matches R e'.1 ∧ e.2.Matches R e'.2

theorem Table.find_matches {es es' : List (Value × Value)}
    (all : List.Forall₂ (EntryMatches R) es es') {key : Value}
    (hkey : ∀ id, key ≠ .table id) :
    (find key es).Matches R (find key es') := by
  induction all with
  | nil => exact rfl
  | @cons e e' _ _ he _ ih =>
    have hiff : e.1 = key ↔ e'.1 = key := by
      constructor
      · rintro rfl
        exact (he.1.scalar hkey).symm
      · rintro rfl
        exact he.1.scalar' hkey
    by_cases h : e.1 = key
    · rw [find, find, if_pos h, if_pos (hiff.mp h)]
      exact he.2
    · rw [find, find, if_neg h, if_neg fun h' => h (hiff.mpr h')]
      exact ih

/-- What a table holds decides whether it counts as an array. -/
def Table.Settled (t : Table) : Prop :=
  t.mark = .array ∨ t.hasItem 1 = true ∨ ∀ n, t.hasItem n = false

/-- Both tables count as arrays or neither does, where the content of the one
does not decide it. -/
def Table.SameKind (t t' : Table) : Prop :=
  t.Settled ∨ (0 < t.border ↔ 0 < t'.border)

/-- **What is not settled, is up to the storage.** -/
theorem Table.exists_isSequence {t : Table} (unsettled : ¬ t.Settled)
    (b : Bool) : ∃ storage, ({ t with storage } : Table).isSequence = b := by
  obtain ⟨unmarked, hfirst, hsome⟩ : t.mark ≠ .array
      ∧ t.hasItem 1 = false ∧ ∃ n, t.hasItem n = true := by
    simpa [Settled, not_or] using unsettled
  obtain ⟨n, border, hn⟩ : ∃ n, t.IsBorder n ∧ decide (0 < n) = b := by
    cases b with
    | false => exact ⟨0, ⟨nofun, hfirst⟩, rfl⟩
    | true =>
      obtain ⟨n, hitem⟩ := hsome
      obtain ⟨m, border, hm⟩ := exists_isBorder hitem
      exact ⟨m, border, decide_eq_true hm⟩
  obtain ⟨storage, hlength⟩ := exists_border border
  refine ⟨storage, ?_⟩
  rw [isSequence, hlength, hn]
  simp [unmarked]

/-- Tables with the same entries in whatever order, up to related tables,
both of them arrays that came from data or neither. -/
structure Table.Matches (R : TableId → TableId → Prop) (t t' : Table) :
    Prop where
  array : t.mark = .array ↔ t'.mark = .array
  proper : t.Proper
  proper' : t'.Proper
  entries : ∃ es, List.Forall₂ (EntryMatches R) t.entries es
    ∧ es.Perm t'.entries

namespace Table.Matches

variable {t t' : Table}

theorem symm (same : t.Matches R t') : t'.Matches (flip R) t where
  array := same.array.symm
  proper := same.proper'
  proper' := same.proper
  entries := by
    obtain ⟨es, all, perm⟩ := same.entries
    exact List.perm_comp_forall₂ perm.symm
      (List.Forall₂.flip (all.imp fun _ _ h => ⟨h.1.symm, h.2.symm⟩))

/-- Under what is no table, there are values that match. -/
theorem get (same : t.Matches R t') {key : Value}
    (hkey : ∀ id, key.asKey ≠ .table id) :
    (t.get key).Matches R (t'.get key) := by
  obtain ⟨es, all, perm⟩ := same.entries
  have hnodup : (es.map Prod.fst).Nodup :=
    (perm.map Prod.fst).symm.nodup_iff.mp same.proper'.nodup
  unfold Table.get
  rw [← find_perm perm hnodup]
  exact find_matches all hkey

theorem hasItem (same : t.Matches R t') (n : Nat) :
    t.hasItem n = t'.hasItem n := by
  have hitem : (t.get (.int (Int64.ofNat n))).Matches R
      (t'.get (.int (Int64.ofNat n))) := same.get nofun
  rw [Table.hasItem, Table.hasItem, hitem.isNil]

/-- They count as arrays both or not, if they are of the same kind. -/
theorem isSequence (same : t.Matches R t') (kind : t.SameKind t') :
    t.isSequence = t'.isSequence := by
  have hlength : t.mark = .array ∨ (0 < t.border ↔ 0 < t'.border) := by
    obtain (marked | first | none) | lengths := kind
    · exact .inl marked
    · exact .inr (iff_of_true (border_pos first)
        (border_pos (same.hasItem 1 ▸ first)))
    · rw [border_eq_zero none,
        border_eq_zero fun n => (same.hasItem n).symm.trans (none n)]
      exact .inr Iff.rfl
    · exact .inr lengths
  unfold Table.isSequence
  obtain marked | lengths := hlength
  · simp [marked, same.array.mp marked]
  · simp [same.array, lengths]

theorem length_entries (same : t.Matches R t') :
    t.entries.length = t'.entries.length := by
  obtain ⟨es, all, perm⟩ := same.entries
  rw [all.length_eq, perm.length_eq]

/-- Their items match, one by one. -/
theorem items (same : t.Matches R t') :
    List.Forall₂ (Value.Matches R) t.items t'.items := by
  unfold Table.items
  rw [same.length_entries]
  generalize t'.entries.length = fuel
  suffices hfrom : ∀ start, List.Forall₂ (Value.Matches R)
      (t.itemsFrom start fuel) (t'.itemsFrom start fuel) from hfrom 1
  induction fuel with
  | zero => exact fun _ => .nil
  | succ fuel ih =>
    intro start
    have hitem : (t.get (.int (Int64.ofNat start))).Matches R
        (t'.get (.int (Int64.ofNat start))) := same.get nofun
    simp only [itemsFrom, hitem.isNil]
    split
    · exact .nil
    · exact .cons hitem (ih (start + 1))

end Table.Matches

/-- Tables that were filled with matching entries under different keys, the
one in this order and the other in that, match. -/
theorem Table.matches_ofPairs {pairs es pairs' : List (Value × Value)}
    (distinct : Distinct pairs) (distinct' : Distinct pairs')
    (all : List.Forall₂ (EntryMatches R) pairs es) (perm : es.Perm pairs') :
    (ofPairs pairs).Matches R (ofPairs pairs') where
  array := by rw [mark_ofPairs, mark_ofPairs]
  proper := proper_ofPairs pairs
  proper' := proper_ofPairs pairs'
  entries := by
    rw [entries_ofPairs distinct, entries_ofPairs distinct']
    refine ⟨es.filter fun e => !e.2.isNil, ?_, perm.filter _⟩
    refine List.rel_filter (fun e e' he => ?_) all
    show (!e.2.isNil) = true ↔ (!e'.2.isNil) = true
    rw [he.2.isNil]

/-- Tables that are related match, here and in the other heap. -/
def Heap.Matching (h h' : Heap) (R : TableId → TableId → Prop) : Prop :=
  ∀ id id', R id id' → (h.table id).Matches R (h'.table id')

theorem Heap.Matching.symm {h h' : Heap} (matching : h.Matching h' R) :
    h'.Matching h (flip R) :=
  fun id' id hid => (matching id id' hid).symm

/-- The values have the same content: the same value, or tables that hold the
same content under the same keys, whatever the order in which they were
filled. -/
def Heap.SameContent (h h' : Heap) (v v' : Value) : Prop :=
  ∃ R, h.Matching h' R ∧ v.Matches R v'

/-- The values have the same content, in tables of the same kind. -/
def Heap.SameData (h h' : Heap) (v v' : Value) : Prop :=
  ∃ R, h.Matching h' R ∧ v.Matches R v'
    ∧ ∀ id id', R id id' → (h.table id).SameKind (h'.table id')

end Content

end ScriptHost
