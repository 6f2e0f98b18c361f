/-
ScriptHost.Data.KeyMap — maps from text keys, kept in key order.

`Fields α` is a bare list of named values, the shape that a JSON object has
inside its recursive type. `Fields.insert`, `Fields.erase` and
`Fields.find?` treat it as a map when it is sorted by name, and
`Fields.insert_sorted` and `Fields.erase_sorted` say that both updates keep
it so. `KeyMap α` carries that fact in its type, so two maps with the same
entries are equal and listing one needs no sort.
-/

namespace ScriptHost

/-- Named values in a row. -/
abbrev Fields (α : Type) := List (String × α)

namespace Fields

variable {α β : Type}

/-- The names stand in strictly increasing order, so none occurs twice. -/
def Sorted (fields : Fields α) : Prop :=
  fields.Pairwise (fun a b => a.1 < b.1)

/-- The value under a name, the first one if there were several. -/
def find? (key : String) : Fields α → Option α
  | [] => none
  | (k, v) :: rest => if k = key then some v else find? key rest

/-- Writes a value under a name: in place of an older one, else at the
name's place in the order. -/
def insert (key : String) (value : α) : Fields α → Fields α
  | [] => [(key, value)]
  | (k, v) :: rest =>
    if key < k then (key, value) :: (k, v) :: rest
    else if key = k then (key, value) :: rest
    else (k, v) :: insert key value rest

/-- Takes a name out. -/
def erase (key : String) : Fields α → Fields α
  | [] => []
  | (k, v) :: rest => if k = key then rest else (k, v) :: erase key rest

/-- Builds a sorted row by writing the given pairs one after another. -/
def ofList (pairs : List (String × α)) : Fields α :=
  pairs.foldl (fun acc p => acc.insert p.1 p.2) []

theorem mem_insert {key : String} {value : α} {fields : Fields α}
    {p : String × α} (h : p ∈ insert key value fields) :
    p = (key, value) ∨ p ∈ fields := by
  induction fields with
  | nil => simpa [insert] using h
  | cons head rest ih =>
    obtain ⟨k, v⟩ := head
    simp only [insert] at h
    split at h
    · simpa using h
    · split at h
      · rcases List.mem_cons.1 h with h | h
        · exact .inl h
        · exact .inr (List.mem_cons_of_mem _ h)
      · rcases List.mem_cons.1 h with h | h
        · exact .inr (by simp [h])
        · exact (ih h).imp_right (List.mem_cons_of_mem _)

theorem insert_sorted (key : String) (value : α) {fields : Fields α}
    (h : fields.Sorted) : (fields.insert key value).Sorted := by
  induction fields with
  | nil => simp [insert, Sorted]
  | cons head rest ih =>
    obtain ⟨k, v⟩ := head
    obtain ⟨hk, hr⟩ := List.pairwise_cons.1 h
    simp only [insert]
    split
    · rename_i hlt
      refine List.pairwise_cons.2 ⟨fun p hp => ?_, h⟩
      rcases List.mem_cons.1 hp with hp | hp
      · simpa [hp] using hlt
      · exact String.lt_trans hlt (hk p hp)
    · split
      · rename_i heq
        exact List.pairwise_cons.2 ⟨fun p hp => heq ▸ hk p hp, hr⟩
      · rename_i hnlt hne
        refine List.pairwise_cons.2 ⟨fun p hp => ?_, ih hr⟩
        rcases mem_insert hp with hp | hp
        · have hle : k ≤ key := String.not_lt.1 hnlt
          rcases Classical.em (k < key) with hlt | hge
          · simpa [hp] using hlt
          · exact absurd (String.le_antisymm (String.not_lt.1 hge) hle) hne
        · exact hk p hp

theorem mem_of_mem_erase {key : String} {fields : Fields α} {p : String × α}
    (h : p ∈ erase key fields) : p ∈ fields := by
  induction fields with
  | nil => simp [erase] at h
  | cons head rest ih =>
    obtain ⟨k, v⟩ := head
    simp only [erase] at h
    split at h
    · exact List.mem_cons_of_mem _ h
    · rcases List.mem_cons.1 h with h | h
      · simp [h]
      · exact List.mem_cons_of_mem _ (ih h)

theorem erase_sorted (key : String) {fields : Fields α} (h : fields.Sorted) :
    (fields.erase key).Sorted := by
  induction fields with
  | nil => simpa [erase] using h
  | cons head rest ih =>
    obtain ⟨k, v⟩ := head
    obtain ⟨hk, hr⟩ := List.pairwise_cons.1 h
    simp only [erase]
    split
    · exact hr
    · exact List.pairwise_cons.2
        ⟨fun p hp => hk p (mem_of_mem_erase hp), ih hr⟩

theorem ofList_sorted (pairs : List (String × α)) :
    (ofList pairs : Fields α).Sorted := by
  suffices h : ∀ acc : Fields α, acc.Sorted →
      (pairs.foldl (fun acc p => acc.insert p.1 p.2) acc : Fields α).Sorted from
    h [] List.Pairwise.nil
  induction pairs with
  | nil => exact fun _ h => h
  | cons p rest ih => exact fun acc h => ih _ (insert_sorted _ _ h)

end Fields

/-- A map from text keys, listed in key order. -/
structure KeyMap (α : Type) where
  /-- The entries, by increasing key. -/
  entries : Fields α
  sorted : entries.Sorted

namespace KeyMap

variable {α β : Type}

/-- The map without entries. -/
def empty : KeyMap α := ⟨[], List.Pairwise.nil⟩

instance : EmptyCollection (KeyMap α) := ⟨empty⟩
instance : Inhabited (KeyMap α) := ⟨empty⟩

/-- The value under a key. -/
def get? (map : KeyMap α) (key : String) : Option α :=
  map.entries.find? key

/-- Is the key present? -/
def contains (map : KeyMap α) (key : String) : Bool :=
  (map.get? key).isSome

/-- Writes a value under a key. -/
def insert (map : KeyMap α) (key : String) (value : α) : KeyMap α :=
  ⟨map.entries.insert key value, Fields.insert_sorted key value map.sorted⟩

/-- Takes a key out. -/
def erase (map : KeyMap α) (key : String) : KeyMap α :=
  ⟨map.entries.erase key, Fields.erase_sorted key map.sorted⟩

/-- The map that a list of pairs builds; of two pairs with one key the
later one counts. -/
def ofList (pairs : List (String × α)) : KeyMap α :=
  ⟨Fields.ofList pairs, Fields.ofList_sorted pairs⟩

/-- The keys, in order. -/
def keys (map : KeyMap α) : List String :=
  map.entries.map Prod.fst

/-- How many entries there are. -/
def size (map : KeyMap α) : Nat :=
  map.entries.length

/-- The entries whose value passes a test. -/
def filter (map : KeyMap α) (keep : α → Bool) : KeyMap α :=
  ⟨map.entries.filter (fun p => keep p.2), map.sorted.filter _⟩

/-- Two maps are equal when they list the same entries. -/
@[ext] theorem ext {a b : KeyMap α} (h : a.entries = b.entries) : a = b := by
  cases a; cases b; simp_all

instance [DecidableEq α] : DecidableEq (KeyMap α) := fun a b =>
  if h : a.entries = b.entries then isTrue (ext h)
  else isFalse (fun heq => h (by rw [heq]))

end KeyMap

end ScriptHost
