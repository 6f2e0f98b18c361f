/-
ScriptHost.Proofs.Script.Unfolding — what data out of a script looks like.

Whatever a script hands out, as data it is `Tidy`: its objects are in key
order, its integers are of 64 bits with a sign, and its doubles are finite.
The items and entries of a table become data one by one
(`toJsonItems_eq_ok`, `toJsonEntries_eq_ok`), and an error about a table is
one about an item or an entry (`toJsonItems_eq_error`,
`toJsonEntries_eq_error`).
-/
import ScriptHost.Proofs.Json.Normal
import ScriptHost.Proofs.Text.Utf8
import ScriptHost.Script.Unfolding

namespace ScriptHost

/-- Data in key order, of integers of 64 bits with a sign and of finite
doubles. -/
structure Json.Tidy (j : Json) : Prop where
  ordered : j.Ordered
  numbers : j.Everywhere fun
    | .int i => Word.minSigned ≤ i ∧ i ≤ Word.maxSigned
    | .float x => x.isFinite = true
    | _ => True

namespace Json

theorem tidy_arr {items : List Json} (h : ∀ j ∈ items, j.Tidy) :
    (arr items).Tidy :=
  ⟨ordered_arr.mpr fun j hj => (h j hj).ordered,
    everywhere_arr.mpr ⟨trivial, fun j hj => (h j hj).numbers⟩⟩

theorem tidy_ofPairs {pairs : List (String × Json)}
    (h : ∀ f ∈ pairs, f.2.Tidy) : (ofPairs pairs).Tidy := by
  have hall : ∀ f ∈ Fields.ofList pairs, f.2.Tidy :=
    fun f hf => h f (Fields.mem_ofList hf)
  exact ⟨ordered_obj.mpr
      ⟨Fields.ofList_sorted pairs, fun f hf => (hall f hf).ordered⟩,
    everywhere_obj.mpr ⟨trivial, fun f hf => (hall f hf).numbers⟩⟩

end Json

namespace Unfolding

theorem tidy_scalar {v : Value} {j : Json} (h : scalarJson v = .ok j) :
    j.Tidy := by
  cases v with
  | nil | null | bool b =>
    obtain rfl := Except.ok.inj h
    exact ⟨trivial, trivial⟩
  | int i =>
    obtain rfl := Except.ok.inj h
    exact ⟨trivial, Int64.le_toInt i, Int.le_of_lt_add_one (Int64.toInt_lt i)⟩
  | float x =>
    obtain rfl := Except.ok.inj h
    cases hfinite : x.isFinite with
    | true => exact ⟨trivial, hfinite⟩
    | false => exact ⟨trivial, trivial⟩
  | str s =>
    simp only [scalarJson] at h
    split at h
    · obtain rfl := Except.ok.inj h
      exact ⟨trivial, trivial⟩
    · cases h
  | table | func | handle => cases h

mutual
/-- **Data out of a script is tidy.** -/
theorem tidy_toJson : ∀ {u : Unfolding} {j : Json}, u.toJson = .ok j → j.Tidy
  | .scalar _, _, h => tidy_scalar h
  | .again, _, h => by cases h
  | .seq _ items _, j, h => by
    rw [toJson] at h
    cases hitems : toJsonItems items with
    | error e => rw [hitems] at h; cases h
    | ok js =>
      rw [hitems] at h
      obtain rfl := Except.ok.inj h
      exact Json.tidy_arr (tidy_items hitems)
  | .map _ entries, j, h => by
    rw [toJson] at h
    cases hentries : toJsonEntries entries with
    | error e => rw [hentries] at h; cases h
    | ok ps =>
      rw [hentries] at h
      obtain rfl := Except.ok.inj h
      exact Json.tidy_ofPairs (tidy_entries hentries)

theorem tidy_items : ∀ {us : List Unfolding} {js : List Json},
    toJsonItems us = .ok js → ∀ j ∈ js, j.Tidy
  | [], js, h => by
    obtain rfl := Except.ok.inj h
    exact nofun
  | u :: rest, js, h => by
    rw [toJsonItems] at h
    cases hu : toJson u with
    | error e => rw [hu] at h; cases h
    | ok j =>
      cases hrest : toJsonItems rest with
      | error e => rw [hu, hrest] at h; cases h
      | ok js' =>
        rw [hu, hrest] at h
        obtain rfl := Except.ok.inj h
        exact List.forall_mem_cons.mpr ⟨tidy_toJson hu, tidy_items hrest⟩

theorem tidy_entries :
    ∀ {es : List (Unfolding × Unfolding)} {ps : List (String × Json)},
      toJsonEntries es = .ok ps → ∀ f ∈ ps, f.2.Tidy
  | [], ps, h => by
    obtain rfl := Except.ok.inj h
    exact nofun
  | (k, u) :: rest, ps, h => by
    rw [toJsonEntries] at h
    cases hcheck : checkEntry (k, u) with
    | error e => rw [hcheck] at h; cases h
    | ok =>
      cases hk : key k with
      | error e => rw [hcheck, hk] at h; cases h
      | ok name =>
        cases hu : toJson u with
        | error e => rw [hcheck, hk, hu] at h; cases h
        | ok j =>
          cases hrest : toJsonEntries rest with
          | error e => rw [hcheck, hk, hu, hrest] at h; cases h
          | ok ps' =>
            rw [hcheck, hk, hu, hrest] at h
            obtain rfl := Except.ok.inj h
            exact List.forall_mem_cons.mpr
              ⟨tidy_toJson hu, tidy_entries hrest⟩
end

end Unfolding

/-! ## Parts of a table -/

namespace Unfolding

/-- The data of what is data. -/
def data (u : Unfolding) : Json := u.toJson.toOption.getD .null

/-- The name of what is one. -/
def name (u : Unfolding) : String := u.key.toOption.getD ""

theorem eq_data {u : Unfolding} {j : Json} (hu : u.toJson = .ok j) :
    j = u.data := by
  rw [data, hu]
  rfl

/-- A key is a name only as the text of it. -/
theorem key_eq_ok {u : Unfolding} {s : String} (hu : u.key = .ok s) :
    u = .scalar (.ofText s) := by
  have refused : ∀ {u : Unfolding} {e : Expected} {s : String},
      (u.refuse e : Except DataError String) ≠ .ok s := by
    intro u e s
    rw [refuse]
    cases u.found <;> nofun
  rw [key] at hu
  split at hu
  · next text htext =>
    obtain rfl := Except.ok.inj hu
    cases u with
    | scalar v =>
      cases v with
      | str bytes =>
        rw [text?] at htext
        cases hbytes : Utf8.toString? bytes with
        | error e => rw [hbytes] at htext; cases htext
        | ok text' =>
          rw [hbytes] at htext
          obtain rfl := Option.some.inj htext
          rw [Utf8.toString?_eq_ok_iff.mp hbytes]
          rfl
      | _ => cases htext
    | _ => cases htext
  · exact absurd hu refused

theorem key_text (s : String) : (scalar (.ofText s)).key = .ok s := by
  have htext : (scalar (.ofText s)).text? = some s := by
    simp [Value.ofText, text?, Except.toOption]
  rw [key, htext]

/-- What is refused as a key is no table inside itself. -/
theorem key_ne_recursive {u : Unfolding} (hu : u.isAgain = false) :
    u.key ≠ .error .recursive := by
  rw [key]
  split
  · nofun
  · rw [refuse]
    cases u with
    | scalar v => cases v <;> nofun
    | again => cases hu
    | seq | map => nofun

theorem toJsonItems_eq_ok {us : List Unfolding} {js : List Json}
    (hus : toJsonItems us = .ok js) :
    (∀ u ∈ us, u.toJson = .ok u.data) ∧ js = us.map data := by
  induction us generalizing js with
  | nil => exact ⟨nofun, (Except.ok.inj hus).symm⟩
  | cons u rest ih =>
    rw [toJsonItems] at hus
    cases hu : u.toJson with
    | error e => rw [hu] at hus; cases hus
    | ok j =>
      cases hrest : toJsonItems rest with
      | error e => rw [hu, hrest] at hus; cases hus
      | ok js' =>
        rw [hu, hrest] at hus
        obtain rfl := Except.ok.inj hus
        obtain ⟨hall, rfl⟩ := ih hrest
        obtain rfl := eq_data hu
        exact ⟨List.forall_mem_cons.mpr ⟨hu, hall⟩, rfl⟩

theorem toJsonItems_eq_error {us : List Unfolding} {e : DataError}
    (hus : toJsonItems us = .error e) : ∃ u ∈ us, u.toJson = .error e := by
  induction us with
  | nil => cases hus
  | cons u rest ih =>
    rw [toJsonItems] at hus
    cases hu : u.toJson with
    | error e' =>
      rw [hu] at hus
      obtain rfl := Except.error.inj hus
      exact ⟨u, List.mem_cons_self, hu⟩
    | ok j =>
      cases hrest : toJsonItems rest with
      | error e' =>
        rw [hu, hrest] at hus
        obtain rfl := Except.error.inj hus
        obtain ⟨u', hmem, hu'⟩ := ih hrest
        exact ⟨u', List.mem_cons_of_mem u hmem, hu'⟩
      | ok js => rw [hu, hrest] at hus; cases hus

theorem toJsonEntries_eq_ok {es : List (Unfolding × Unfolding)}
    {ps : List (String × Json)} (hes : toJsonEntries es = .ok ps) :
    (∀ p ∈ es, p.1 = .scalar (.ofText p.1.name) ∧ p.2.toJson = .ok p.2.data)
      ∧ ps = es.map fun p => (p.1.name, p.2.data) := by
  induction es generalizing ps with
  | nil => exact ⟨nofun, (Except.ok.inj hes).symm⟩
  | cons p rest ih =>
    obtain ⟨k, u⟩ := p
    rw [toJsonEntries] at hes
    cases hcheck : checkEntry (k, u) with
    | error e => rw [hcheck] at hes; cases hes
    | ok =>
      cases hk : key k with
      | error e => rw [hcheck, hk] at hes; cases hes
      | ok s =>
        cases hu : u.toJson with
        | error e => rw [hcheck, hk, hu] at hes; cases hes
        | ok j =>
          cases hrest : toJsonEntries rest with
          | error e => rw [hcheck, hk, hu, hrest] at hes; cases hes
          | ok ps' =>
            rw [hcheck, hk, hu, hrest] at hes
            obtain rfl := Except.ok.inj hes
            obtain ⟨hall, rfl⟩ := ih hrest
            obtain rfl := eq_data hu
            obtain rfl : s = k.name := by rw [name, hk]; rfl
            exact ⟨List.forall_mem_cons.mpr ⟨⟨key_eq_ok hk, hu⟩, hall⟩, rfl⟩

/-- The error is about the entry: it leads back, its key is no name, or its
value is no data. -/
def Faults (e : DataError) (p : Unfolding × Unfolding) : Prop :=
  (e = .recursive ∧ (p.1.isAgain ∨ p.2.isAgain))
    ∨ (p.1.isAgain = false ∧ p.1.key = .error e)
    ∨ p.2.toJson = .error e

theorem toJsonEntries_eq_error {es : List (Unfolding × Unfolding)}
    {e : DataError} (hes : toJsonEntries es = .error e) :
    ∃ p ∈ es, Faults e p := by
  induction es with
  | nil => cases hes
  | cons p rest ih =>
    obtain ⟨k, u⟩ := p
    have here (hp : Faults e (k, u)) : ∃ p ∈ (k, u) :: rest, Faults e p :=
      ⟨(k, u), List.mem_cons_self, hp⟩
    rw [toJsonEntries, checkEntry] at hes
    by_cases hagain : (k.isAgain || u.isAgain) = true
    · rw [if_pos hagain] at hes
      obtain rfl := Except.error.inj hes
      exact here (.inl ⟨rfl, by simpa using hagain⟩)
    rw [if_neg hagain] at hes
    have hk' : k.isAgain = false := by simp_all
    cases hk : key k with
    | error e' =>
      rw [hk] at hes
      obtain rfl := Except.error.inj hes
      exact here (.inr (.inl ⟨hk', hk⟩))
    | ok s =>
      cases hu : u.toJson with
      | error e' =>
        rw [hk, hu] at hes
        obtain rfl := Except.error.inj hes
        exact here (.inr (.inr hu))
      | ok j =>
        cases hrest : toJsonEntries rest with
        | error e' =>
          rw [hk, hu, hrest] at hes
          obtain rfl := Except.error.inj hes
          obtain ⟨p, hmem, hp⟩ := ih hrest
          exact ⟨p, List.mem_cons_of_mem _ hmem, hp⟩
        | ok ps => rw [hk, hu, hrest] at hes; cases hes

end Unfolding

end ScriptHost
