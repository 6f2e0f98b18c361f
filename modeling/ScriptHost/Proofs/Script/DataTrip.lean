/-
ScriptHost.Proofs.Script.DataTrip — data into a script and back.

`Action.ofJson` builds tables for data and `Action.toJson` reads data out of
tables. `toJson_ofJson` says what comes back in any world: `Json.norm` of
what went in, which is the same data where it is plain.

Building never touches an older table (`Heap.Extends`), and a table holds
only older ones. So a value is opened in the same way after more tables are
made, and no way through it leads back to a table around it (`Heap.Opens`);
what it shows as data (`Heap.Shows`), it goes on to show.
-/
import Mathlib.Data.List.Forall2
import ScriptHost.Proofs.Json.Normal
import ScriptHost.Proofs.Script.Action
import ScriptHost.Proofs.Script.Heap
import ScriptHost.Proofs.Script.Table

namespace ScriptHost

/-! ## Items of a table -/

namespace Table

/-- Numbers that are less than `size64` apart are different keys. -/
theorem int_ne {a b : Nat} (hlt : a < b) (hnear : b < a + Word.size64) :
    Value.int (Int64.ofNat a) ≠ .int (Int64.ofNat b) := by
  intro h
  have hbits := congrArg (fun i : Int64 => i.toBitVec.toNat)
    (Value.int.inj h)
  simp only [Int64.toBitVec_ofNat', BitVec.toNat_ofNat] at hbits
  simp only [Word.size64] at hnear
  omega

/-- A number below the first key finds nothing. -/
theorem find_enumerate_below (items : List Value) :
    ∀ {s k : Nat}, k < s → s + items.length ≤ k + Word.size64 →
      find (.int (Int64.ofNat k)) (enumerate s items) = .nil := by
  induction items with
  | nil => intro s k _ _; rfl
  | cons v rest ih =>
    intro s k hk hs
    rw [List.length_cons] at hs
    have hrest := ih (s := s + 1) (k := k) (by omega) (by omega)
    unfold enumerate
    split
    · exact hrest
    · rw [find, if_neg (int_ne hk (by omega)).symm, hrest]

/-- Under its number stands each item, nil after the last. -/
theorem find_enumerate (items : List Value) :
    ∀ {s i : Nat}, i ≤ items.length → items.length < Word.size64 →
      find (.int (Int64.ofNat (s + i))) (enumerate s items)
        = items.getD i .nil := by
  induction items with
  | nil => intro s i _ _; simp [enumerate, find]
  | cons v rest ih =>
    intro s i hi hlen
    rw [List.length_cons] at hi hlen
    unfold enumerate
    cases i with
    | zero =>
      split
      · rename_i hnil
        rw [Nat.add_zero, find_enumerate_below rest (by omega) (by omega)]
        simpa using ((Value.isNil_iff v).mp hnil).symm
      · simp [find]
    | succ i =>
      have hrest := ih (s := s + 1) (i := i) (by omega) (by omega)
      rw [show s + 1 + i = s + (i + 1) by omega] at hrest
      split
      · rw [hrest, List.getD_cons_succ]
      · rw [find, if_neg (int_ne (by omega) (by omega)), hrest,
          List.getD_cons_succ]

theorem length_enumerate (items : List Value) (s : Nat) :
    (items.takeWhile fun v => !v.isNil).length
      ≤ (enumerate s items).length := by
  induction items generalizing s with
  | nil => exact Nat.le_refl 0
  | cons v rest ih =>
    unfold enumerate
    cases h : v.isNil with
    | true => simp [h]
    | false => simpa [h] using ih (s + 1)

theorem itemsFrom_eq {t : Table} (items : List Value) :
    ∀ {start fuel : Nat},
      (∀ i ≤ items.length,
        t.get (.int (Int64.ofNat (start + i))) = items.getD i .nil) →
      (items.takeWhile fun v => !v.isNil).length ≤ fuel →
      t.itemsFrom start fuel = items.takeWhile fun v => !v.isNil := by
  induction items with
  | nil =>
    intro start fuel hget _
    have hnil : t.get (.int (Int64.ofNat start)) = .nil := by
      simpa using hget 0 (Nat.le_refl 0)
    cases fuel with
    | zero => rfl
    | succ fuel => simp [itemsFrom, hnil, Value.isNil]
  | cons v rest ih =>
    intro start fuel hget hfuel
    have hv : t.get (.int (Int64.ofNat start)) = v := by
      simpa using hget 0 (Nat.zero_le _)
    cases h : v.isNil with
    | true =>
      cases fuel with
      | zero => simp [itemsFrom, h]
      | succ fuel => simp [itemsFrom, hv, h]
    | false =>
      rw [List.takeWhile_cons_of_pos (by simp [h])] at hfuel ⊢
      cases fuel with
      | zero => simp at hfuel
      | succ fuel =>
        have hrest : t.itemsFrom (start + 1) fuel
            = rest.takeWhile fun v => !v.isNil := by
          refine ih (fun i hi => ?_) (by simpa using hfuel)
          rw [show start + 1 + i = start + (i + 1) by omega,
            hget (i + 1) (by simpa using hi), List.getD_cons_succ]
        simp [itemsFrom, hv, h, hrest]

theorem nodup_enumerate {items : List Value}
    (hlen : items.length < Word.size64) (s : Nat) :
    ((enumerate s items).map Prod.fst).Nodup := by
  induction items generalizing s with
  | nil => exact List.nodup_nil
  | cons v rest ih =>
    rw [List.length_cons] at hlen
    have hrest := ih (by omega) (s + 1)
    unfold enumerate
    split
    · exact hrest
    · refine List.nodup_cons.mpr ⟨fun h => ?_, hrest⟩
      obtain ⟨i, hi, heq⟩ := mem_keys_enumerate h
      exact int_ne (by omega) (by omega) heq

theorem present_enumerate (items : List Value) (s : Nat) :
    ∀ p ∈ enumerate s items, (!p.2.isNil) = true := by
  induction items generalizing s with
  | nil => exact fun _ hp => absurd hp List.not_mem_nil
  | cons v rest ih =>
    unfold enumerate
    split
    · exact ih (s + 1)
    · next hv =>
      refine List.forall_mem_cons.mpr ⟨?_, ih (s + 1)⟩
      rw [Bool.eq_false_iff.mpr hv]
      rfl

/-- What a table of items holds. -/
theorem entries_ofItems (mark : Mark) {items : List Value}
    (h : items.length ≤ Word.max64) :
    (ofItems mark items).entries = enumerate 1 items := by
  simp only [Word.max64] at h
  have distinct : Distinct (enumerate 1 items) := by
    refine ⟨nodup_enumerate (by simp only [Word.size64]; omega) 1,
      fun p hp => ?_⟩
    obtain ⟨i, -, hkey⟩ := mem_keys_enumerate (List.mem_map_of_mem hp)
    rw [hkey]
    exact ⟨rfl, rfl⟩
  exact (entries_ofPairs distinct).trans
    (List.filter_eq_self.mpr (present_enumerate items 1))

/-- **What an array reads as**: its items before the first nil. -/
theorem items_ofItems (mark : Mark) {items : List Value}
    (h : items.length ≤ Word.max64) :
    (ofItems mark items).items = items.takeWhile fun v => !v.isNil := by
  have hentries := entries_ofItems mark h
  simp only [Word.max64] at h
  unfold Table.items
  refine itemsFrom_eq items (fun i hi => ?_) ?_
  · rw [Table.get, hentries]
    exact find_enumerate items hi (by simp only [Word.size64]; omega)
  · rw [hentries]
    exact length_enumerate items 1

end Table

namespace Heap

/-! ## Opening values -/

variable {h : Heap} {v : Value} {P : Unfolding → Prop}

/-- The value is opened through tables of `h` alone, and has a property then:
also in a larger heap, and inside any newer tables. -/
def Opens (h : Heap) (v : Value) (P : Unfolding → Prop) : Prop :=
  ∀ h', h.Extends h' → ∀ fuel path, h.tables.size ≤ fuel →
    (∀ id ∈ path, h.tables.size ≤ id) →
    (h'.unfoldFrom fuel path v).isAgain = false
      ∧ P (h'.unfoldFrom fuel path v)

theorem Opens.mono (hv : h.Opens v P) {h' : Heap} (hext : h.Extends h') :
    h'.Opens v P :=
  fun h'' hext' fuel path hfuel hpath =>
    hv h'' (hext.trans hext') fuel path (Nat.le_trans hext.size_le hfuel)
      fun id hid => Nat.le_trans hext.size_le (hpath id hid)

/-- What opens in the whole heap, opens from the outside. -/
theorem Opens.unfold (hv : h.Opens v P) : P (h.unfold v) :=
  (hv h (Extends.refl h) _ [] (Nat.le_succ _) nofun).2

theorem unfoldFrom_scalar (h : Heap) (fuel : Nat) (path : List TableId)
    {v : Value} (hv : ∀ id, v ≠ .table id) :
    h.unfoldFrom fuel path v = .scalar v := by
  cases v with
  | table id => exact absurd rfl (hv id)
  | nil | bool | int | float | str | func | handle | null =>
    simp [unfoldFrom]

/-- A value that is no table is what it is. -/
theorem opens_scalar (h : Heap) (hv : ∀ id, v ≠ .table id)
    (holds : P (.scalar v)) : h.Opens v P := by
  intro h' _ fuel path _ _
  rw [unfoldFrom_scalar h' fuel path hv]
  exact ⟨rfl, holds⟩

/-- Inside a new table, everything older keeps its place on any way. -/
theorem newest_path {path : List TableId}
    (hpath : ∀ id ∈ path, h.tables.size + 1 ≤ id) :
    path.contains h.tables.size = false
      ∧ ∀ id ∈ h.tables.size :: path, h.tables.size ≤ id := by
  constructor
  · rw [List.contains_eq_mem, decide_eq_false_iff_not]
    intro hmem
    exact Nat.not_succ_le_self _ (hpath _ hmem)
  · rw [List.forall_mem_cons]
    exact ⟨Nat.le_refl _, fun id hid => Nat.le_of_succ_le (hpath id hid)⟩

/-- Opens all values that open in `h`. -/
def Opener (h : Heap) (inner : Value → Unfolding) : Prop :=
  ∀ v P, h.Opens v P → (inner v).isAgain = false ∧ P (inner v)

/-- Text is opened as it is. -/
theorem Opener.text {inner : Value → Unfolding} (opener : h.Opener inner)
    (s : String) : inner (.ofText s) = .scalar (.ofText s) :=
  (opener (.ofText s) (· = .scalar (.ofText s))
    (opens_scalar h (by simp [Value.ofText]) rfl)).2

/-- A new table opens to what it holds, opened in the older tables. -/
theorem opens_newest {t : Table}
    (holds : ∀ inner, h.Opener inner →
      P (if t.isSequence then
          .seq t.mark (t.items.map inner)
            ((t.entries.filter fun p => !p.1.isItem t.items.length).map
              fun p => (inner p.1, inner p.2))
        else .map t.mark (t.entries.map fun p => (inner p.1, inner p.2)))) :
    (h.alloc t).2.Opens (.table h.tables.size) P := by
  intro h' hext fuel path hfuel hpath
  rw [size_alloc] at hfuel hpath
  obtain ⟨fuel, rfl⟩ := Nat.exists_eq_add_of_le' hfuel
  obtain ⟨hnew, hpath⟩ := newest_path hpath
  have htable : h'.table h.tables.size = t := by
    rw [hext.table_eq _ (by rw [size_alloc]; omega), table_alloc]
  have opener : h.Opener
      (h'.unfoldFrom (fuel + h.tables.size) (h.tables.size :: path)) :=
    fun v P hv => hv h' ((alloc_extends h t).trans hext) _ _
      (Nat.le_add_left _ _) hpath
  rw [← Nat.add_assoc, unfoldFrom, hnew, if_neg Bool.false_ne_true]
  simp only [htable]
  refine ⟨?_, holds _ opener⟩
  split <;> rfl

/-- A new array opens to its items. -/
theorem opens_array {values : List Value}
    (hlen : values.length ≤ Word.max64)
    (holds : ∀ inner, h.Opener inner → ∀ others,
      P (.seq .array ((values.takeWhile fun v => !v.isNil).map inner)
        others)) :
    (h.alloc (Table.ofItems .array values)).2.Opens (.table h.tables.size)
      P := by
  have hseq : (Table.ofItems .array values).isSequence = true := by
    simp [Table.isSequence, Table.ofItems]
  refine opens_newest fun inner opener => ?_
  rw [if_pos hseq, Table.items_ofItems .array hlen]
  exact holds inner opener _

/-- A new table under texts opens to its fields. -/
theorem opens_object {entries : List (Value × Value)} {names : List String}
    (keys : entries.map Prod.fst = names.map .ofText) (nodup : names.Nodup)
    (holds : ∀ inner, h.Opener inner →
      P (.map .plain ((entries.filter fun p => !p.2.isNil).map
        fun p => (inner p.1, inner p.2)))) :
    (h.alloc (Table.ofPairs entries)).2.Opens (.table h.tables.size) P := by
  refine opens_newest fun inner opener => ?_
  rw [Table.not_sequence_of_texts keys, if_neg Bool.false_ne_true,
    Table.mark_ofPairs,
    Table.entries_ofPairs (Table.distinct_of_texts keys nodup)]
  exact holds inner opener

/-! ## Values that show data -/

/-- The value shows the data `j`, as far as a script can hold it. -/
structure Shows (h : Heap) (v : Value) (j : Json) : Prop where
  isNil : v.isNil = j.isNull
  opens : h.Opens v fun u => u.toJson = .ok j.norm

theorem Shows.mono {h' : Heap} {j : Json} (hv : h.Shows v j)
    (hext : h.Extends h') : h'.Shows v j :=
  ⟨hv.isNil, hv.opens.mono hext⟩

/-- A value that is no table shows what it is. -/
theorem shows_scalar (h : Heap) {j : Json} (hv : ∀ id, v ≠ .table id)
    (hnil : v.isNil = j.isNull)
    (hj : Unfolding.scalarJson v = .ok j.norm) : h.Shows v j :=
  ⟨hnil, opens_scalar h hv (by rw [Unfolding.toJson, hj])⟩

theorem shows_int (h : Heap) {i : Int} (low : Word.minSigned ≤ i)
    (high : i ≤ Word.max64) : h.Shows (.ofInt i) (.int i) := by
  unfold Value.ofInt Word.isSigned
  split
  · rename_i hsigned
    simp only [Bool.and_eq_true, decide_eq_true_eq] at hsigned
    refine shows_scalar h (by simp) rfl ?_
    rw [Json.norm, if_pos hsigned.2, Unfolding.scalarJson,
      Int64.toInt_ofInt_of_le hsigned.1
        (Int.lt_of_le_of_lt hsigned.2 (by decide))]
  · rename_i hlarge
    simp only [Bool.and_eq_true, decide_eq_true_eq, low, true_and] at hlarge
    refine shows_scalar h (by simp) rfl ?_
    rw [Json.norm, if_neg hlarge, Unfolding.scalarJson,
      Binary64.ofInt_finite (Int.not_le.mp hlarge) high, if_pos rfl]

theorem shows_text (h : Heap) (s : String) : h.Shows (.ofText s) (.str s) := by
  refine shows_scalar h nofun rfl ?_
  simp only [Json.norm, Value.ofText, Unfolding.scalarJson,
    Utf8.toString?_ofString]

/-! ## Arrays -/

/-- Values that show the items of an array, read as the items that
remain. -/
theorem toJsonItems_opened {inner : Value → Unfolding}
    (opener : h.Opener inner) {values : List Value} {items : List Json}
    (shows : List.Forall₂ h.Shows values items) :
    Unfolding.toJsonItems ((values.takeWhile fun v => !v.isNil).map inner)
      = .ok (Json.normItems items) := by
  induction shows with
  | nil => rfl
  | @cons v j values items hv _ ih =>
    obtain ⟨-, hjson⟩ := opener _ _ hv.opens
    cases hnull : j.isNull with
    | true => simp [hv.isNil, hnull, Json.normItems, Unfolding.toJsonItems]
    | false =>
      rw [List.takeWhile_cons_of_pos (by simp [hv.isNil, hnull]),
        List.map_cons, Unfolding.toJsonItems, hjson, ih, Json.normItems]
      simp only [hnull, Bool.false_eq_true, if_false]
      rfl

theorem shows_array {values : List Value} {items : List Json}
    (shows : List.Forall₂ h.Shows values items)
    (hlen : items.length ≤ Word.max64) :
    (h.alloc (Table.ofItems .array values)).2.Shows (.table h.tables.size)
      (.arr items) := by
  have hlen' : values.length ≤ Word.max64 := shows.length_eq ▸ hlen
  refine ⟨rfl, opens_array hlen' fun inner opener others => ?_⟩
  rw [Unfolding.toJson, toJsonItems_opened opener shows, Json.norm]
  rfl

/-! ## Objects -/

/-- An entry shows a field: its key is the name, its value the data. -/
structure ShowsField (h : Heap) (entry : Value × Value)
    (field : String × Json) : Prop where
  key : entry.1 = .ofText field.1
  value : h.Shows entry.2 field.2

/-- Entries that show the fields of an object, read as the fields that
remain. -/
theorem toJsonEntries_opened {inner : Value → Unfolding}
    (opener : h.Opener inner) {entries : List (Value × Value)}
    {fields : List (String × Json)}
    (shows : List.Forall₂ h.ShowsField entries fields) :
    Unfolding.toJsonEntries
        ((entries.filter fun p => !p.2.isNil).map fun p =>
          (inner p.1, inner p.2))
      = .ok (Json.normFields fields) := by
  induction shows with
  | nil => rfl
  | @cons e f entries fields he _ ih =>
    obtain ⟨k, v⟩ := e
    obtain ⟨name, j⟩ := f
    obtain rfl : k = .ofText name := he.key
    have hv : h.Shows v j := he.value
    obtain ⟨hagain, hjson⟩ := opener _ _ hv.opens
    cases hnull : j.isNull with
    | true => simpa [hv.isNil, hnull, Json.normFields] using ih
    | false =>
      have hname : (Unfolding.scalar (.ofText name)).key = .ok name := by
        simp [Unfolding.key, Unfolding.text?, Value.ofText, Except.toOption]
      have hcheck : Unfolding.checkEntry (.scalar (.ofText name), inner v)
          = .ok () := by
        rw [Unfolding.checkEntry, hagain]
        rfl
      rw [List.filter_cons_of_pos (by simp [hv.isNil, hnull]), List.map_cons,
        opener.text, Unfolding.toJsonEntries, hcheck, hname, hjson, ih,
        Json.normFields]
      simp only [hnull, Bool.false_eq_true, if_false]
      rfl

theorem shows_object {entries : List (Value × Value)} {fields : Fields Json}
    (shows : List.Forall₂ h.ShowsField entries fields)
    (sorted : fields.Sorted) :
    (h.alloc (Table.ofPairs entries)).2.Shows (.table h.tables.size)
      (.obj fields) := by
  have hkeys := Table.keys_of_forall₂ (fun _ _ => ShowsField.key) shows
  refine ⟨rfl, opens_object hkeys sorted.nodup fun inner opener => ?_⟩
  have hsorted := Json.sorted_normFields sorted
  rw [Unfolding.toJson, toJsonEntries_opened opener shows, Json.norm,
    Except.map, Json.ofPairs, Fields.ofList_of_sorted hsorted]

/-! ## Building -/

/-- The value of `j`, wherever it is built, shows `j`. -/
def Builds (j : Json) : Prop :=
  ∀ h : Heap, (h.ofJson j).2.Shows (h.ofJson j).1 j

theorem builds_items {items : List Json} (builds : ∀ j ∈ items, Builds j) :
    ∀ h : Heap,
      List.Forall₂ (h.ofItems items).2.Shows (h.ofItems items).1 items := by
  induction items with
  | nil => exact fun h => .nil
  | cons j rest ih =>
    intro h
    obtain ⟨hj, hrest⟩ := List.forall_mem_cons.mp builds
    rw [ofItems]
    exact .cons ((hj h).mono (ofItems_extends rest _)) (ih hrest _)

theorem builds_fields {fields : List (String × Json)}
    (builds : ∀ f ∈ fields, Builds f.2) :
    ∀ h : Heap,
      List.Forall₂ (h.ofFields fields).2.ShowsField (h.ofFields fields).1
        fields := by
  induction fields with
  | nil => exact fun h => .nil
  | cons f rest ih =>
    intro h
    obtain ⟨hj, hrest⟩ := List.forall_mem_cons.mp builds
    rw [ofFields]
    exact .cons ⟨rfl, (hj h).mono (ofFields_extends rest _)⟩ (ih hrest _)

/-- **All data of a host is built so.** -/
theorem builds {j : Json} (ordered : j.Ordered) (proper : j.Proper) :
    Builds j := by
  induction j with
  | null => exact fun h => shows_scalar h nofun rfl rfl
  | bool b => exact fun h => shows_scalar h nofun rfl rfl
  | int i => exact fun h => shows_int h proper.1 proper.2
  | float x =>
    have hfinite : x.isFinite = true := proper
    refine fun h => shows_scalar h nofun rfl ?_
    simp only [ofJson, Unfolding.scalarJson, hfinite, if_true, Json.norm]
  | str s => exact fun h => shows_text h s
  | arr items ih =>
    obtain ⟨hlen, hproper⟩ := Json.everywhere_arr.mp proper
    have hordered := Json.ordered_arr.mp ordered
    intro h
    rw [ofJson]
    exact shows_array (builds_items
      (fun j hj => ih j hj (hordered j hj) (hproper j hj)) h) hlen
  | obj fields ih =>
    obtain ⟨-, hproper⟩ := Json.everywhere_obj.mp proper
    obtain ⟨hsorted, hordered⟩ := Json.ordered_obj.mp ordered
    intro h
    rw [ofJson]
    exact shows_object (builds_fields
      (fun f hf => ih f hf (hordered f hf) (hproper f hf)) h) hsorted

theorem toJson_of_shows {j : Json} (shows : h.Shows v j) :
    h.toJson v = .ok j.norm :=
  shows.opens.unfold

end Heap

/-! ## There and back -/

namespace Action

variable {F : Type}

/-- Data into a script and back. -/
def trip (j : Json) : Action F Json := do toJson (← ofJson j)

theorem trip_result (w : World F) {j : Json} (ordered : j.Ordered)
    (proper : j.Proper) : ((trip j).run.run w).1 = .ok j.norm := by
  have hback := Heap.toJson_of_shows
    (Heap.builds ordered proper w.interpreter.heap)
  rw [trip, run_bind, run_ofJson]
  dsimp only
  rw [run_toJson, hback]

/-- **What comes back is what remains of the data**, in every world. It is
the same data where that is plain, and a second trip changes nothing. An
integer that a script cannot hold comes back as a double, and no double is
nearer to it. -/
theorem toJson_ofJson (w : World F) {j : Json} (ordered : j.Ordered)
    (proper : j.Proper) :
    ((trip j).run.run w).1 = .ok j.norm
      ∧ (j.Plain → ((trip j).run.run w).1 = .ok j)
      ∧ j.norm.norm = j.norm
      ∧ (∀ w' : World F, ((trip j.norm).run.run w').1 = .ok j.norm)
      ∧ ∀ i : Int, Word.maxSigned < i → i ≤ Word.max64 →
        ∃ x : Binary64, (Json.int i).norm = .float x ∧ x.isFinite = true
          ∧ ∀ y : Binary64, |x.toRat - i| ≤ |y.toRat - i| := by
  have hresult := trip_result w ordered proper
  refine ⟨hresult, fun plain => ?_, Json.norm_norm j, fun w' => ?_,
    fun i low high => ?_⟩
  · rw [hresult, Json.norm_of_plain plain]
  · rw [trip_result w' (Json.ordered_norm ordered) (Json.proper_norm proper),
      Json.norm_norm]
  · exact ⟨.ofInt i, if_neg (Int.not_le.mpr low),
      Binary64.ofInt_finite low high, Binary64.ofInt_nearest low high⟩

/-- Data with a null in an array, a null field and an integer of 64 bits
without a sign. -/
def mixed : Json :=
  .obj [("a", .arr [.int 1, .null, .int 2]), ("b", .null),
    ("c", .int 0xFFFFFFFFFFFFFFFF)]

theorem toJson_ofJson_mixed :
    mixed.Ordered ∧ mixed.Proper
      ∧ ((trip mixed).run.run (⟨.fresh none, {}⟩ : World Empty)).1
        = .ok (.obj [("a", .arr [.int 1]),
          ("c", .float ⟨0x43F0000000000000⟩)]) := by
  have ordered : mixed.Ordered := by
    refine Json.ordered_obj.mpr ⟨?_, ?_⟩
    · unfold Fields.Sorted
      decide
    · simp [Json.Ordered, Json.OrderedItems]
  have proper : mixed.Proper := by
    simp [mixed, Json.Proper, Json.Everywhere, Json.EverywhereItems,
      Json.EverywhereFields, Word.minSigned, Word.max64]
  exact ⟨ordered, proper, (toJson_ofJson _ ordered proper).1⟩

end Action

end ScriptHost
