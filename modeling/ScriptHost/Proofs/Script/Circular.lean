/-
ScriptHost.Proofs.Script.Circular — which values become data.

A table becomes data together with what it holds: its items if it is an
array, all its entries otherwise (`Table.parts`, `Table.labels`). If no table
on the way leads back to itself, a value unfolds to finite data
(`Heap.UnfoldsTo`), in which a table that is held twice stands twice.

`Heap.toJson` goes through tables with a bound on their number. The tables on
one way are all different, so the bound is never met (`Heap.room_cons`), and
what comes out is decided by the value alone: the data that it unfolds to
(`Heap.toJson_eq_ok_iff`), an error about a table inside itself only if there
is one, and another error only if something on the way is no data
(`Heap.Way.grounds`).
-/
import Mathlib.Data.Finset.Card
import Mathlib.Logic.Relation
import ScriptHost.Proofs.Script.DataTrip
import ScriptHost.Proofs.Script.Unfolding

namespace ScriptHost

open Relation

/-! ## What a table holds, as data -/

namespace Table

/-- The values that become data with the table. -/
def parts (t : Table) : List Value :=
  if t.isSequence then t.items else t.entries.map Prod.snd

/-- The keys that become data with the table. -/
def labels (t : Table) : List Value :=
  if t.isSequence then [] else t.entries.map Prod.fst

variable {t : Table}

theorem parts_array (isArray : t.isSequence = true) : t.parts = t.items :=
  if_pos isArray

theorem labels_array (isArray : t.isSequence = true) : t.labels = [] :=
  if_pos isArray

theorem parts_object (isObject : t.isSequence = false) :
    t.parts = t.entries.map Prod.snd := by
  rw [parts, isObject, if_neg Bool.false_ne_true]

theorem labels_object (isObject : t.isSequence = false) :
    t.labels = t.entries.map Prod.fst := by
  rw [labels, isObject, if_neg Bool.false_ne_true]

end Table

namespace Heap

variable {h : Heap}

/-- The one value becomes data as a part of the other. -/
inductive Part (h : Heap) : Value → Value → Prop
  | intro {id : TableId} {v : Value} (mem : v ∈ (h.table id).parts) :
    Part h (.table id) v

/-- The other value becomes data along with the first one. -/
def Involves (h : Heap) : Value → Value → Prop := ReflTransGen h.Part

/-- The table is inside itself, as a part or as a key. -/
def Circular (h : Heap) (id : TableId) : Prop :=
  ∃ inner, h.Involves (.table id) (.table inner)
    ∧ .table id ∈ (h.table inner).parts ++ (h.table inner).labels

/-- The value itself can be data: it is no function, no handle and no text of
wrong bytes, and every key that becomes data with it is a text. -/
def Suitable (h : Heap) : Value → Prop
  | .func _ => False
  | .handle _ => False
  | .str s => ∃ text : String, s = Utf8.ofString text
  | .table id => ∀ k ∈ (h.table id).labels, ∃ name, k = .ofText name
  | _ => True

/-- The data that a value unfolds to. Every use of a table is unfolded
anew. -/
inductive UnfoldsTo (h : Heap) : Value → Json → Prop
  | nil : UnfoldsTo h .nil .null
  | null : UnfoldsTo h .null .null
  | bool (b : Bool) : UnfoldsTo h (.bool b) (.bool b)
  | int (i : Int64) : UnfoldsTo h (.int i) (.int i.toInt)
  | float (x : Binary64) (finite : x.isFinite = true) :
    UnfoldsTo h (.float x) (.float x)
  | notFinite (x : Binary64) (infinite : x.isFinite = false) :
    UnfoldsTo h (.float x) .null
  | text (s : String) : UnfoldsTo h (.ofText s) (.str s)
  | array {id : TableId} (isArray : (h.table id).isSequence = true)
    (data : Value → Json)
    (items : ∀ v ∈ (h.table id).items, UnfoldsTo h v (data v)) :
    UnfoldsTo h (.table id) (.arr ((h.table id).items.map data))
  | object {id : TableId} (isObject : (h.table id).isSequence = false)
    (name : Value → String) (data : Value → Json)
    (keys : ∀ e ∈ (h.table id).entries, e.1 = .ofText (name e.1))
    (values : ∀ e ∈ (h.table id).entries, UnfoldsTo h e.2 (data e.2)) :
    UnfoldsTo h (.table id)
      (.ofPairs ((h.table id).entries.map fun e => (name e.1, data e.2)))

/-! ## What finite data is made of -/

theorem part_iff {id : TableId} {v : Value} :
    h.Part (.table id) v ↔ v ∈ (h.table id).parts :=
  ⟨fun ⟨mem⟩ => mem, .intro⟩

/-- What holds its own parts, holds all that becomes data with it. -/
theorem Involves.within {row : List Value}
    (closed : ∀ id, .table id ∈ row → ∀ p ∈ (h.table id).parts, p ∈ row)
    {v w : Value} (hv : v ∈ row) (way : h.Involves v w) : w ∈ row := by
  induction way with
  | refl => exact hv
  | tail _ part ih =>
    obtain ⟨mem⟩ := part
    exact closed _ ih _ mem

/-- What unfolds has only parts that unfold. -/
theorem UnfoldsTo.part {v w : Value} {j : Json} (hv : h.UnfoldsTo v j)
    (part : h.Part v w) : ∃ j', h.UnfoldsTo w j' := by
  obtain ⟨mem⟩ := part
  cases hv with
  | array isArray data items =>
    rw [Table.parts_array isArray] at mem
    exact ⟨_, items w mem⟩
  | object isObject name data keys values =>
    rw [Table.parts_object isObject, List.mem_map] at mem
    obtain ⟨e, he, rfl⟩ := mem
    exact ⟨_, values e he⟩

theorem UnfoldsTo.involves {v w : Value} {j : Json} (hv : h.UnfoldsTo v j)
    (way : h.Involves v w) : ∃ j', h.UnfoldsTo w j' := by
  induction way with
  | refl => exact ⟨j, hv⟩
  | tail _ part ih =>
    obtain ⟨_, hw⟩ := ih
    exact hw.part part

theorem UnfoldsTo.suitable {v : Value} {j : Json} (hv : h.UnfoldsTo v j) :
    h.Suitable v := by
  cases hv with
  | nil | null | bool | int | float | notFinite => trivial
  | text s => exact ⟨s, rfl⟩
  | array isArray =>
    intro k hk
    rw [Table.labels_array isArray] at hk
    cases hk
  | object isObject name data keys =>
    intro k hk
    rw [Table.labels_object isObject, List.mem_map] at hk
    obtain ⟨e, he, rfl⟩ := hk
    exact ⟨_, keys e he⟩

/-- A way back to where it started that begins with a part is a way through
the part. So there is none if there is none through any part. -/
theorem no_loop_of_parts {v : Value}
    (parts : ∀ p, h.Part v p → ∀ w, h.Involves p w → ¬ TransGen h.Part w w) :
    ∀ w, h.Involves v w → ¬ TransGen h.Part w w := by
  intro w way loop
  rcases way.cases_head with rfl | ⟨p, part, rest⟩
  · obtain ⟨p, part, back⟩ := TransGen.head'_iff.mp loop
    exact parts p part v back loop
  · exact parts p part w rest loop

/-- No way through what unfolds leads back. -/
theorem UnfoldsTo.acyclic {v : Value} {j : Json} (hv : h.UnfoldsTo v j) :
    ∀ w, h.Involves v w → ¬ TransGen h.Part w w := by
  induction hv with
  | nil | null | bool | int | float | notFinite | text =>
    exact no_loop_of_parts nofun
  | array isArray data items ih =>
    refine no_loop_of_parts fun p part => ?_
    have mem := part_iff.mp part
    rw [Table.parts_array isArray] at mem
    exact ih p mem
  | object isObject name data keys values ih =>
    refine no_loop_of_parts fun p part => ?_
    have mem := part_iff.mp part
    rw [Table.parts_object isObject, List.mem_map] at mem
    obtain ⟨e, he, rfl⟩ := mem
    exact ih e he

theorem UnfoldsTo.not_circular {id : TableId} {j : Json}
    (hv : h.UnfoldsTo (.table id) j) : ¬ h.Circular id := by
  rintro ⟨inner, way, mem⟩
  rcases List.mem_append.mp mem with part | label
  · exact hv.acyclic _ .refl (TransGen.tail' way (.intro part))
  · obtain ⟨_, hinner⟩ := hv.involves way
    obtain ⟨name, hname⟩ := hinner.suitable _ label
    cases hname

/-- A value unfolds to one data only. -/
theorem UnfoldsTo.unique {v : Value} {j : Json} (hv : h.UnfoldsTo v j) :
    ∀ {j' : Json}, h.UnfoldsTo v j' → j = j' := by
  induction hv with
  | nil | null | bool | int => rintro _ ⟨⟩; rfl
  | float x finite =>
    rintro _ (_ | _)
    · rfl
    · simp_all
  | notFinite x infinite =>
    rintro _ (_ | _)
    · simp_all
    · rfl
  | text s =>
    intro j' hv'
    generalize hs : Value.ofText s = v at hv'
    cases hv' with
    | text s' => rw [Utf8.ofString_injective (Value.str.inj hs)]
    | _ => cases hs
  | array isArray data items ih =>
    intro j' hv'
    cases hv' with
    | array isArray' data' items' =>
      rw [List.map_congr_left fun v hv => ih v hv (items' v hv)]
    | object isObject => simp_all
  | object isObject name data keys values ih =>
    intro j' hv'
    cases hv' with
    | array isArray => simp_all
    | object isObject' name' data' keys' values' =>
      congr 1
      refine List.map_congr_left fun e he => ?_
      have hkey := (keys e he).symm.trans (keys' e he)
      rw [Utf8.ofString_injective (Value.str.inj hkey),
        ih e he (values' e he)]

end Heap

/-! ## The way through the tables -/

namespace Heap

variable {h : Heap}

/-- How many tables are not on a way. -/
def room (h : Heap) (path : List TableId) : Nat :=
  (Finset.range h.tables.size \ path.toFinset).card

/-- A table that holds anything takes room. -/
theorem room_cons {path : List TableId} {id : TableId} {v : Value}
    (new : id ∉ path)
    (mem : v ∈ (h.table id).parts ++ (h.table id).labels) :
    h.room (id :: path) < h.room path := by
  have present : id < h.tables.size := by
    by_contra absent
    have empty : h.table id = {} := by
      rw [table, Array.getD_eq_getD_getElem?,
        Array.getElem?_eq_none (Nat.le_of_not_lt absent)]
      rfl
    rw [empty] at mem
    cases mem
  refine Finset.card_lt_card ⟨?_, fun hsub => ?_⟩
  · rw [List.toFinset_cons]
    exact Finset.sdiff_subset_sdiff (Finset.Subset.refl _)
      (Finset.subset_insert _ _)
  · have hid := hsub (Finset.mem_sdiff.mpr
      ⟨Finset.mem_range.mpr present, by simpa using new⟩)
    simp at hid

/-- A way from the value `root` through the tables `path`, the last one in
front, to a value in the last one. -/
inductive Way (h : Heap) (root : Value) : List TableId → Value → Prop
  | start : Way h root [] root
  | step {path : List TableId} {id : TableId} {v : Value}
    (way : Way h root path (.table id)) (mem : v ∈ (h.table id).parts) :
    Way h root (id :: path) v

theorem Way.involves {root v : Value} {path : List TableId}
    (way : h.Way root path v) : h.Involves root v := by
  induction way with
  | start => exact .refl
  | step _ mem ih => exact ih.tail (.intro mem)

/-- Every table on the way is involved, and involves the last one. -/
theorem Way.through {root v : Value} {path : List TableId}
    (way : h.Way root path v) : ∀ id ∈ path, h.Involves root (.table id)
      ∧ ∃ inner, h.Involves (.table id) (.table inner)
        ∧ v ∈ (h.table inner).parts := by
  induction way with
  | start => exact nofun
  | @step path inner v way mem ih =>
    refine List.forall_mem_cons.mpr ⟨⟨way.involves, inner, .refl, mem⟩, ?_⟩
    intro id hid
    obtain ⟨hroot, before, hbefore, hinner⟩ := ih id hid
    exact ⟨hroot, inner, hbefore.tail (.intro hinner), mem⟩

/-- A way that comes to what holds a table on it, goes in a circle. -/
theorem Way.circular {root : Value} {path : List TableId} {id p : TableId}
    (way : h.Way root path (.table id))
    (mem : .table p ∈ (h.table id).parts ++ (h.table id).labels)
    (met : p ∈ id :: path) : h.Involves root (.table p) ∧ h.Circular p := by
  rcases List.mem_cons.mp met with rfl | hp
  · exact ⟨way.involves, p, .refl, mem⟩
  · obtain ⟨hroot, inner, hinner, hid⟩ := way.through p hp
    exact ⟨hroot, id, hinner.tail (.intro hid), mem⟩

/-! ## Values that are no tables -/

theorem unfoldsTo_of_scalarJson {v : Value} {j : Json}
    (hv : Unfolding.scalarJson v = .ok j) : h.UnfoldsTo v j := by
  cases v with
  | nil => obtain rfl := Except.ok.inj hv; exact .nil
  | null => obtain rfl := Except.ok.inj hv; exact .null
  | bool b => obtain rfl := Except.ok.inj hv; exact .bool b
  | int i => obtain rfl := Except.ok.inj hv; exact .int i
  | float x =>
    obtain rfl := Except.ok.inj hv
    cases hfinite : x.isFinite with
    | true => exact .float x hfinite
    | false => exact .notFinite x hfinite
  | str s =>
    rw [Unfolding.scalarJson] at hv
    split at hv
    · next text htext =>
      obtain rfl := Except.ok.inj hv
      rw [Utf8.toString?_eq_ok_iff.mp htext]
      exact .text text
    · cases hv
  | table | func | handle => cases hv

theorem not_suitable_of_scalarJson {v : Value} (plain : ∀ id, v ≠ .table id)
    {e : DataError} (hv : Unfolding.scalarJson v = .error e) :
    e ≠ .recursive ∧ ¬ h.Suitable v := by
  cases v with
  | nil | null | bool | int | float => cases hv
  | str s =>
    rw [Unfolding.scalarJson] at hv
    split at hv
    · cases hv
    · next htext =>
      obtain rfl := Except.error.inj hv
      refine ⟨(by cases ·), ?_⟩
      rintro ⟨text, rfl⟩
      rw [Utf8.toString?_ofString] at htext
      cases htext
  | table id => exact absurd rfl (plain id)
  | func | handle =>
    obtain rfl := Except.error.inj hv
    exact ⟨(by cases ·), id⟩

/-! ## Unfolding with room -/

section Unfold

variable {fuel : Nat} {path : List TableId} {id : TableId} {v : Value}

theorem unfoldFrom_met (hid : id ∈ path) :
    h.unfoldFrom fuel path (.table id) = .again := by
  rw [unfoldFrom.eq_def]
  simp [hid]

variable (h fuel) in
theorem unfoldFrom_array (hid : id ∉ path)
    (isArray : (h.table id).isSequence = true) :
    ∃ others, h.unfoldFrom (fuel + 1) path (.table id)
      = .seq (h.table id).mark
        ((h.table id).items.map (h.unfoldFrom fuel (id :: path))) others := by
  rw [unfoldFrom.eq_def]
  simp [hid, isArray]

theorem unfoldFrom_object (hid : id ∉ path)
    (isObject : (h.table id).isSequence = false) :
    h.unfoldFrom (fuel + 1) path (.table id)
      = .map (h.table id).mark ((h.table id).entries.map fun e =>
        (h.unfoldFrom fuel (id :: path) e.1,
          h.unfoldFrom fuel (id :: path) e.2)) := by
  rw [unfoldFrom.eq_def]
  simp [hid, isObject]

/-- What unfolds to something plain is just that. -/
theorem eq_of_unfoldFrom {w : Value}
    (hv : h.unfoldFrom fuel path v = .scalar w) : v = w := by
  cases v with
  | table id =>
    by_cases hid : id ∈ path
    · rw [unfoldFrom_met hid] at hv
      cases hv
    cases fuel with
    | zero =>
      rw [unfoldFrom.eq_def] at hv
      simp [hid] at hv
    | succ fuel =>
      cases hkind : (h.table id).isSequence with
      | true =>
        obtain ⟨others, heq⟩ := unfoldFrom_array h fuel hid hkind
        rw [heq] at hv
        cases hv
      | false => rw [unfoldFrom_object hid hkind] at hv; cases hv
  | nil | bool | int | float | str | func | handle | null =>
    rw [unfoldFrom_scalar] at hv
    · exact Unfolding.scalar.inj hv
    · intro id heq
      cases heq

/-- With room left, a way is cut off only where it comes back. -/
theorem met_of_isAgain (space : h.room path < fuel)
    (hv : (h.unfoldFrom fuel path v).isAgain = true) :
    ∃ id ∈ path, v = .table id := by
  by_cases table : ∃ id, v = .table id
  · obtain ⟨id, rfl⟩ := table
    refine ⟨id, ?_, rfl⟩
    by_contra hid
    obtain ⟨fuel, rfl⟩ : ∃ n, fuel = n + 1 := ⟨fuel - 1, by omega⟩
    cases hkind : (h.table id).isSequence with
    | true =>
      obtain ⟨others, heq⟩ := unfoldFrom_array h fuel hid hkind
      rw [heq] at hv
      cases hv
    | false => rw [unfoldFrom_object hid hkind] at hv; cases hv
  · rw [unfoldFrom_scalar h fuel path fun id hid => table ⟨id, hid⟩] at hv
    cases hv

/-- What is not cut off and is no table, is the value itself. -/
theorem toJson_plain (hv : ∀ id, v ≠ .table id) :
    (h.unfoldFrom fuel path v).toJson = Unfolding.scalarJson v := by
  rw [unfoldFrom_scalar h fuel path hv, Unfolding.toJson]

theorem toJson_array (hid : id ∉ path)
    (isArray : (h.table id).isSequence = true) :
    (h.unfoldFrom (fuel + 1) path (.table id)).toJson
      = (Unfolding.toJsonItems ((h.table id).items.map
        (h.unfoldFrom fuel (id :: path)))).map .arr := by
  obtain ⟨others, heq⟩ := unfoldFrom_array h fuel hid isArray
  rw [heq, Unfolding.toJson]

theorem toJson_object (hid : id ∉ path)
    (isObject : (h.table id).isSequence = false) :
    (h.unfoldFrom (fuel + 1) path (.table id)).toJson
      = (Unfolding.toJsonEntries ((h.table id).entries.map fun e =>
        (h.unfoldFrom fuel (id :: path) e.1,
          h.unfoldFrom fuel (id :: path) e.2))).map .ofPairs := by
  rw [unfoldFrom_object hid isObject, Unfolding.toJson]

/-- **Data out of a value is what it unfolds to.** -/
theorem unfoldsTo_of_toJson {j : Json}
    (hv : (h.unfoldFrom fuel path v).toJson = .ok j) : h.UnfoldsTo v j := by
  induction fuel generalizing path v j with
  | zero =>
    cases v with
    | table id =>
      rw [unfoldFrom.eq_def] at hv
      simp [Unfolding.toJson] at hv
    | nil | bool | int | float | str | func | handle | null =>
      rw [toJson_plain (by simp)] at hv
      exact unfoldsTo_of_scalarJson hv
  | succ fuel ih =>
    cases v with
    | table id =>
      by_cases hid : id ∈ path
      · rw [unfoldFrom_met hid] at hv
        cases hv
      cases hkind : (h.table id).isSequence with
      | true =>
        rw [toJson_array hid hkind] at hv
        cases hitems : Unfolding.toJsonItems ((h.table id).items.map
          (h.unfoldFrom fuel (id :: path))) with
        | error e => rw [hitems] at hv; cases hv
        | ok js =>
          rw [hitems] at hv
          obtain rfl := Except.ok.inj hv
          obtain ⟨hall, rfl⟩ := Unfolding.toJsonItems_eq_ok hitems
          rw [List.map_map]
          refine .array hkind _ fun v hmem => ?_
          exact ih (hall _ (List.mem_map_of_mem hmem))
      | false =>
        rw [toJson_object hid hkind] at hv
        cases hentries : Unfolding.toJsonEntries
            ((h.table id).entries.map fun e =>
              (h.unfoldFrom fuel (id :: path) e.1,
                h.unfoldFrom fuel (id :: path) e.2)) with
        | error e => rw [hentries] at hv; cases hv
        | ok ps =>
          rw [hentries] at hv
          obtain rfl := Except.ok.inj hv
          obtain ⟨hall, rfl⟩ := Unfolding.toJsonEntries_eq_ok hentries
          rw [List.map_map]
          have hentry := fun e (he : e ∈ (h.table id).entries) =>
            hall _ (List.mem_map_of_mem he)
          refine .object hkind (fun k =>
              (h.unfoldFrom fuel (id :: path) k).name)
            (fun v => (h.unfoldFrom fuel (id :: path) v).data)
            (fun e he => eq_of_unfoldFrom (hentry e he).1) fun e he => ?_
          exact ih (hentry e he).2
    | nil | bool | int | float | str | func | handle | null =>
      rw [toJson_plain (by simp)] at hv
      exact unfoldsTo_of_scalarJson hv

/-- The error is right about something that becomes data along with the
value: there is a table inside itself if it says so, and a value that cannot
be data if it says anything else. -/
def Grounds (h : Heap) (root : Value) (e : DataError) : Prop :=
  (e = .recursive ∧ ∃ id, h.Involves root (.table id) ∧ h.Circular id)
    ∨ (e ≠ .recursive ∧ ∃ w, h.Involves root w ∧ ¬ h.Suitable w)

/-- A fault of an entry has grounds if an error about its value has. -/
theorem Way.grounds_of_fault {root k : Value} {e : DataError}
    (way : h.Way root path (.table id)) (space : h.room (id :: path) < fuel)
    (label : k ∈ (h.table id).labels) (part : v ∈ (h.table id).parts)
    (fault : Unfolding.Faults e (h.unfoldFrom fuel (id :: path) k,
      h.unfoldFrom fuel (id :: path) v))
    (inner : (h.unfoldFrom fuel (id :: path) v).toJson = .error e →
      h.Grounds root e) : h.Grounds root e := by
  rcases fault with ⟨rfl, again | again⟩ | ⟨new, hkey⟩ | herror
  · obtain ⟨p, met, rfl⟩ := met_of_isAgain space again
    exact .inl ⟨rfl, p, way.circular (List.mem_append_right _ label) met⟩
  · obtain ⟨p, met, rfl⟩ := met_of_isAgain space again
    exact .inl ⟨rfl, p, way.circular (List.mem_append_left _ part) met⟩
  · refine .inr ⟨fun hrec => Unfolding.key_ne_recursive new (hrec ▸ hkey), _,
      way.involves, fun suitable => ?_⟩
    obtain ⟨name, rfl⟩ := suitable k label
    rw [unfoldFrom_scalar _ _ _ (by simp [Value.ofText]),
      Unfolding.key_text] at hkey
    cases hkey
  · exact inner herror

/-- **What is wrong with a value that is no data.** At the end of a way with
room left, every error has grounds. -/
theorem Way.grounds {root : Value} (way : h.Way root path v)
    (space : h.room path < fuel) {e : DataError}
    (hv : (h.unfoldFrom fuel path v).toJson = .error e) :
    h.Grounds root e := by
  induction fuel generalizing path v with
  | zero => exact absurd space (Nat.not_lt_zero _)
  | succ fuel ih =>
    cases v with
    | table id =>
      by_cases hid : id ∈ path
      · rw [unfoldFrom_met hid] at hv
        obtain rfl := Except.error.inj hv
        obtain ⟨hroot, inner, hinner, hmem⟩ := way.through id hid
        exact .inl ⟨rfl, id, hroot, inner, hinner,
          List.mem_append_left _ hmem⟩
      have inside {w : Value} (hw : w ∈ (h.table id).parts) :
          h.room (id :: path) < fuel :=
        Nat.lt_of_lt_of_le (room_cons hid (List.mem_append_left _ hw))
          (Nat.le_of_lt_succ space)
      cases hkind : (h.table id).isSequence with
      | true =>
        rw [toJson_array hid hkind] at hv
        cases hitems : Unfolding.toJsonItems ((h.table id).items.map
          (h.unfoldFrom fuel (id :: path))) with
        | ok js => rw [hitems] at hv; cases hv
        | error e' =>
          rw [hitems] at hv
          obtain rfl := Except.error.inj hv
          obtain ⟨u, hu, herror⟩ := Unfolding.toJsonItems_eq_error hitems
          obtain ⟨w, hw, rfl⟩ := List.mem_map.mp hu
          rw [← Table.parts_array hkind] at hw
          exact ih (way.step hw) (inside hw) herror
      | false =>
        rw [toJson_object hid hkind] at hv
        cases hentries : Unfolding.toJsonEntries
            ((h.table id).entries.map fun e =>
              (h.unfoldFrom fuel (id :: path) e.1,
                h.unfoldFrom fuel (id :: path) e.2)) with
        | ok ps => rw [hentries] at hv; cases hv
        | error e' =>
          rw [hentries] at hv
          obtain rfl := Except.error.inj hv
          obtain ⟨_, hp, fault⟩ := Unfolding.toJsonEntries_eq_error hentries
          obtain ⟨entry, hentry, rfl⟩ := List.mem_map.mp hp
          have label : entry.1 ∈ (h.table id).labels :=
            Table.labels_object hkind ▸ List.mem_map_of_mem hentry
          have part : entry.2 ∈ (h.table id).parts :=
            Table.parts_object hkind ▸ List.mem_map_of_mem hentry
          exact way.grounds_of_fault (inside part) label part fault
            (ih (way.step part) (inside part))
    | nil | bool | int | float | str | func | handle | null =>
      rw [toJson_plain (by simp)] at hv
      obtain ⟨hne, hnot⟩ := not_suitable_of_scalarJson (h := h) (by simp) hv
      exact .inr ⟨hne, _, way.involves, hnot⟩

end Unfold

/-! ## Values as data -/

/-- At the start there is room for every table. -/
theorem grounds_of_toJson {v : Value} {e : DataError}
    (hv : h.toJson v = .error e) : h.Grounds v e := by
  refine Way.start.grounds ?_ hv
  rw [room, List.toFinset_nil, Finset.sdiff_empty, Finset.card_range]
  exact Nat.lt_succ_self _

/-- What unfolds gives no error grounds. -/
theorem UnfoldsTo.groundless {v : Value} {j : Json} (hv : h.UnfoldsTo v j)
    (e : DataError) : ¬ h.Grounds v e := by
  rintro (⟨-, id, way, circular⟩ | ⟨-, w, way, unsuitable⟩)
  · obtain ⟨_, hid⟩ := hv.involves way
    exact hid.not_circular circular
  · obtain ⟨_, hw⟩ := hv.involves way
    exact unsuitable hw.suitable

/-- **A value is the data that it unfolds to, or none.** -/
theorem toJson_eq_ok_iff {v : Value} {j : Json} :
    h.toJson v = .ok j ↔ h.UnfoldsTo v j := by
  refine ⟨unfoldsTo_of_toJson, fun hv => ?_⟩
  cases hjson : h.toJson v with
  | error e => exact absurd (grounds_of_toJson hjson) (hv.groundless e)
  | ok j' => rw [hv.unique (unfoldsTo_of_toJson hjson)]

/-- **A value unfolds if nothing is in the way**: no value that cannot be
data becomes data with it, and no table inside itself does. -/
theorem unfoldsTo_iff {v : Value} :
    (∃ j, h.UnfoldsTo v j) ↔ (∀ w, h.Involves v w → h.Suitable w)
      ∧ ∀ id, h.Involves v (.table id) → ¬ h.Circular id := by
  constructor
  · rintro ⟨j, hv⟩
    constructor
    · intro w way
      obtain ⟨_, hw⟩ := hv.involves way
      exact hw.suitable
    · intro id way
      obtain ⟨_, hid⟩ := hv.involves way
      exact hid.not_circular
  · rintro ⟨suitable, acyclic⟩
    cases hjson : h.toJson v with
    | ok j => exact ⟨j, toJson_eq_ok_iff.mp hjson⟩
    | error e =>
      exfalso
      rcases grounds_of_toJson hjson with
        ⟨-, id, way, circular⟩ | ⟨-, w, way, unsuitable⟩
      · exact acyclic id way circular
      · exact unsuitable (suitable w way)

end Heap

end ScriptHost
