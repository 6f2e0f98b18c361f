/-
ScriptHost.Proofs.Capability.JsonCoding — a value as JSON text, and back.

What `json.marshal` writes is the text of the value as data. Unless there is
a double in the data, or more lies inside each other than the reader goes
through, `json.unmarshal` reads just this data back, wherever the text is
taken.

The data of a value is decided by its content and by which of its tables
count as arrays (`Heap.UnfoldsTo.transfer`): names come in key order and items
by their numbers, whatever the order in which the tables were filled. So
values of one content have one text where their tables are of the same kind,
and where there are no doubles, one text is of one data only
(`JsonFunction.marshal_content`). A table with a gap at its first item is of
one kind or the other by the order in which it was filled
(`JsonFunction.marshal_gaps`).
-/
import ScriptHost.Capability.JsonCoding
import ScriptHost.Proofs.Json.Text
import ScriptHost.Proofs.Script.Alike
import ScriptHost.Proofs.Script.Circular

namespace ScriptHost

/-- Tidy data without doubles is said exactly by its text. -/
theorem Json.Tidy.exact {j : Json} (tidy : j.Tidy) (free : j.FloatFree) :
    j.Exact := by
  obtain ⟨-, numbers⟩ := tidy
  induction j with
  | null | bool | str => exact trivial
  | int i => exact ⟨numbers.1, numbers.2.trans (by decide)⟩
  | float x => exact free.elim
  | arr items ih =>
    obtain ⟨-, hnumbers⟩ := everywhere_arr.mp numbers
    obtain ⟨-, hfree⟩ := everywhere_arr.mp free
    exact everywhere_arr.mpr
      ⟨trivial, fun j hj => ih j hj (hfree j hj) (hnumbers j hj)⟩
  | obj fields ih =>
    obtain ⟨-, hnumbers⟩ := everywhere_obj.mp numbers
    obtain ⟨-, hfree⟩ := everywhere_obj.mp free
    exact everywhere_obj.mpr
      ⟨trivial, fun f hf => ih f hf (hfree f hf) (hnumbers f hf)⟩

/-! ## Data of the same content -/

namespace Heap

variable {h h' : Heap} {id : TableId}

/-- The text of a key that is one. -/
def labelOf : Value → String
  | .str s => (Utf8.toString? s).toOption.getD ""
  | _ => ""

theorem labelOf_ofText (s : String) : labelOf (.ofText s) = s := by
  rw [Value.ofText, labelOf, Utf8.toString?_ofString]
  rfl

/-- The data of a value that is one. -/
def dataOf (h : Heap) (v : Value) : Json :=
  (h.toJson v).toOption.getD .null

theorem UnfoldsTo.dataOf {v : Value} {j : Json} (hv : h.UnfoldsTo v j) :
    h.dataOf v = j := by
  rw [Heap.dataOf, toJson_eq_ok_iff.mpr hv]
  rfl

/-- What is related to the members of a row, one by one, by a relation that is
a function, is what the function makes of the row. -/
theorem eq_map_of_forall₂ {α β : Type} {P : α → β → Prop} {f : α → β}
    (hf : ∀ a b, P a b → f a = b) {as : List α} {bs : List β}
    (all : List.Forall₂ P as bs) :
    bs = as.map f ∧ ∀ a ∈ as, P a (f a) := by
  induction all with
  | nil => exact ⟨rfl, nofun⟩
  | cons hab _ ih =>
    obtain rfl := hf _ _ hab
    exact ⟨by rw [List.map_cons, ← ih.1],
      List.forall_mem_cons.mpr ⟨hab, ih.2⟩⟩

/-- An array unfolds to what its items unfold to. -/
theorem UnfoldsTo.array_of {js : List Json}
    (isArray : (h.table id).isSequence = true)
    (items : List.Forall₂ h.UnfoldsTo (h.table id).items js) :
    h.UnfoldsTo (.table id) (.arr js) := by
  obtain ⟨rfl, hitems⟩ :=
    eq_map_of_forall₂ (fun _ _ hv => UnfoldsTo.dataOf hv) items
  exact .array isArray h.dataOf hitems

/-- The entry becomes the field. -/
def EntryUnfolds (h : Heap) (e : Value × Value) (f : String × Json) : Prop :=
  e.1 = .ofText f.1 ∧ h.UnfoldsTo e.2 f.2

/-- An object unfolds to what its entries unfold to. -/
theorem UnfoldsTo.object_of {fields : List (String × Json)}
    (isObject : (h.table id).isSequence = false)
    (entries : List.Forall₂ h.EntryUnfolds (h.table id).entries fields) :
    h.UnfoldsTo (.table id) (.ofPairs fields) := by
  obtain ⟨rfl, hentries⟩ := eq_map_of_forall₂
    (f := fun e => (labelOf e.1, h.dataOf e.2))
    (fun e f ⟨hkey, hv⟩ => by rw [hkey, labelOf_ofText, hv.dataOf]) entries
  exact .object isObject labelOf h.dataOf (fun e he => (hentries e he).1)
    fun e he => (hentries e he).2

/-- **Values of the same content are the same data.** -/
theorem UnfoldsTo.transfer {R : TableId → TableId → Prop}
    (matching : h.Matching h' R)
    (kinds : ∀ id id', R id id' →
      (h.table id).isSequence = (h'.table id').isSequence)
    {v : Value} {j : Json} (hv : h.UnfoldsTo v j) :
    ∀ {v' : Value}, v.Matches R v' → h'.UnfoldsTo v' j := by
  induction hv with
  | nil | null | bool | int | float | notFinite | text =>
    intro v' same
    rw [← same.scalar nofun]
    constructor <;> assumption
  | @array id isArray data items ih =>
    intro v' same
    cases v' with
    | table id' =>
      have tables := matching id id' same
      refine .array_of (kinds id id' same ▸ isArray) ?_
      have hitems := (List.forall₂_and_left _ _).mpr
        ⟨fun v hv => @ih v hv, tables.items⟩
      exact List.forall₂_map_right_iff.mpr
        (List.Forall₂.flip (hitems.imp fun v v' ⟨hv, hv'⟩ => hv hv'))
    | _ => cases same
  | @object id isObject name data keys values ih =>
    intro v' same
    cases v' with
    | table id' =>
      have tables := matching id id' same
      obtain ⟨es, all, perm⟩ := tables.entries
      have hentries := (List.forall₂_and_left _ _).mpr
        ⟨fun e he => And.intro (keys e he) (@ih e he), all⟩
      -- The fields, in the order of the entries over there.
      have hes : List.Forall₂ h'.EntryUnfolds es
          ((h.table id).entries.map fun e => (name e.1, data e.2)) := by
        refine List.forall₂_map_right_iff.mpr
          (List.Forall₂.flip (hentries.imp fun e e' ⟨⟨hkey, hv⟩, he⟩ => ?_))
        have hsame := he.1.scalar (by rw [hkey]; nofun)
        exact ⟨hsame.symm.trans hkey, hv he.2⟩
      obtain ⟨fields, hfields, hperm⟩ := List.perm_comp_forall₂ perm.symm hes
      have hnames := Table.keys_of_forall₂ (fun e f h => h.1) hfields
      have hnodup : (fields.map Prod.fst).Nodup :=
        (hnames ▸ tables.proper'.nodup).of_map _
      rw [Json.ofPairs, ← Fields.ofList_perm hperm hnodup]
      exact .object_of (kinds id id' same ▸ isObject) hfields
    | _ => cases same

/-- **What becomes data does so wherever its content is**, in tables of the
same kind. -/
theorem SameData.unfoldsTo_iff {v v' : Value} (same : h.SameData h' v v')
    {j : Json} : h.UnfoldsTo v j ↔ h'.UnfoldsTo v' j := by
  obtain ⟨R, matching, hv, kinds⟩ := same
  have hkinds : ∀ id id', R id id' →
      (h.table id).isSequence = (h'.table id').isSequence :=
    fun id id' hid => (matching id id' hid).isSequence (kinds id id' hid)
  constructor
  · exact fun hj => hj.transfer matching hkinds hv
  · exact fun hj => hj.transfer matching.symm
      (fun id' id hid => (hkinds id id' hid).symm) hv.symm

/-- A value with no double in it is data with none. -/
theorem UnfoldsTo.floatFree {v : Value} {j : Json} (hv : h.UnfoldsTo v j)
    (free : ∀ x, ¬ h.Involves v (.float x)) : j.FloatFree := by
  induction hv with
  | nil | null | bool | int | notFinite | text => trivial
  | float x finite => exact absurd .refl (free x)
  | array isArray data items ih =>
    refine Json.everywhere_arr.mpr ⟨trivial, fun j hj => ?_⟩
    obtain ⟨v, hmem, rfl⟩ := List.mem_map.mp hj
    refine ih v hmem fun x way => free x (.head ?_ way)
    rw [part_iff, Table.parts_array isArray]
    exact hmem
  | object isObject name data keys values ih =>
    refine Json.everywhere_obj.mpr ⟨trivial, fun f hf => ?_⟩
    obtain ⟨e, he, rfl⟩ := List.mem_map.mp (Fields.mem_ofList hf)
    refine ih e he fun x way => free x (.head ?_ way)
    rw [part_iff, Table.parts_object isObject]
    exact List.mem_map_of_mem he

end Heap

namespace JsonFunction

variable {F : Type}

open ScriptHost.Action

theorem run_marshal (args : List Value) (w : World F) :
    (marshal.run args : Action F (List Value)).run.run w
      = (match w.interpreter.heap.toJson (Argument.nth args 0) with
        | .ok j => .ok [.ofText j.render]
        | .error e => .error (.raised (.data e)), w) := by
  rw [run, run_bind, run_toJson]
  cases w.interpreter.heap.toJson (Argument.nth args 0) <;> rfl

theorem marshal_ok (args : List Value) {w : World F} {j : Json}
    (hjson : w.interpreter.heap.toJson (Argument.nth args 0) = .ok j) :
    (marshal.run args : Action F (List Value)).run.run w
      = (.ok [.ofText j.render], w) := by
  rw [run_marshal, hjson]

theorem marshal_error (args : List Value) {w : World F} {e : DataError}
    (hjson : w.interpreter.heap.toJson (Argument.nth args 0) = .error e) :
    (marshal.run args : Action F (List Value)).run.run w
      = (.error (.raised (.data e)), w) := by
  rw [run_marshal, hjson]

/-- A text that reads as data is taken for the value of the data. -/
theorem run_unmarshal {text : String} {j : Json}
    (h : Json.parse? text = some j) (w : World F) :
    (unmarshal.run [.ofText text] : Action F (List Value)).run.run w
      = (.ok [(w.interpreter.heap.ofJson j).1],
        { w with interpreter.heap := (w.interpreter.heap.ofJson j).2 }) := by
  rw [run, run_bind, run_argument_text]
  dsimp only
  rw [h]
  rfl

/-- **A value as JSON text and back.** If `json.marshal` succeeds, it returns
the text of the value as data and changes nothing. If there is no double in
the data, and no more than 127 arrays and objects lie inside each other, the
text reads as exactly this data. `json.unmarshal` then succeeds on it, in any
world, and returns the value of the data. -/
theorem unmarshal_marshal {w w' : World F} {args values : List Value}
    (marshals : (marshal.run args : Action F (List Value)).run.run w
      = (.ok values, w')) :
    ∃ j, w.interpreter.heap.toJson (Argument.nth args 0) = .ok j
      ∧ values = [.ofText j.render] ∧ w' = w
      ∧ (j.FloatFree → j.depth ≤ 127 →
        Json.parse? j.render = some j
          ∧ ∀ u : World F,
            (unmarshal.run values : Action F (List Value)).run.run u
              = (.ok [(u.interpreter.heap.ofJson j).1],
                { u with
                  interpreter.heap := (u.interpreter.heap.ofJson j).2 })) := by
  rw [run_marshal] at marshals
  cases hjson : w.interpreter.heap.toJson (Argument.nth args 0) with
  | error e => rw [hjson] at marshals; cases marshals
  | ok j =>
    rw [hjson] at marshals
    obtain ⟨hvalues, rfl⟩ := Prod.mk.inj marshals
    obtain rfl := Except.ok.inj hvalues
    refine ⟨j, rfl, rfl, rfl, fun free shallow => ?_⟩
    have tidy : j.Tidy := Unfolding.tidy_toJson hjson
    have hback := Json.parse?_render (tidy.exact free) tidy.ordered shallow
    exact ⟨hback, run_unmarshal hback⟩

/-- Data with a name of characters that are escaped, the least integer and
the largest, and an object in an array in an object. -/
def spelled : Json :=
  .obj [("", .arr [.int (-0x8000000000000000), .obj [("é", .bool true)]]),
    ("\x22\\\x01\n", .int 0x7FFFFFFFFFFFFFFF)]

theorem unmarshal_marshal_spelled :
    let (v, h) := ({} : Heap).ofJson spelled
    let w : World Empty := ⟨{ Interpreter.fresh none with heap := h }, {}⟩
    spelled.render = "\x7b\"\":[-9223372036854775808,\x7b\"é\":true\x7d],"
        ++ "\"\\\"\\\\\\u0001\\n\":9223372036854775807\x7d"
      ∧ (marshal.run [v] : Action Empty (List Value)).run.run w
        = (.ok [.ofText spelled.render], w)
      ∧ Json.parse? spelled.render = some spelled
      ∧ ((unmarshal.run [.ofText spelled.render] :
          Action Empty (List Value)).run.run w).1
        = .ok [(h.ofJson spelled).1] := by
  have ordered : spelled.Ordered := by
    refine Json.ordered_obj.mpr ⟨?_, ?_⟩
    · unfold Fields.Sorted
      decide
    · simp [Json.Ordered, Json.OrderedItems, Json.OrderedFields,
        Fields.Sorted]
  have proper : spelled.Proper := by
    simp [spelled, Json.Proper, Json.Everywhere, Json.EverywhereItems,
      Json.EverywhereFields, Word.minSigned, Word.max64]
  have kept : spelled.norm = spelled := rfl
  have free : spelled.FloatFree := by
    simp [spelled, Json.FloatFree, Json.Everywhere, Json.EverywhereItems,
      Json.EverywhereFields]
  -- The script's value is the data again.
  have hback := Heap.toJson_of_shows (Heap.builds ordered proper {})
  rw [kept] at hback
  have marshals := run_marshal [(({} : Heap).ofJson spelled).1]
    (⟨{ Interpreter.fresh none with
      heap := (({} : Heap).ofJson spelled).2 }, {}⟩ : World Empty)
  simp only [Argument.nth, List.getD_cons_zero, hback] at marshals
  refine ⟨rfl, marshals, ?_⟩
  obtain ⟨j, hj, -, -, reads⟩ := unmarshal_marshal marshals
  obtain rfl := Except.ok.inj (hj.symm.trans hback)
  obtain ⟨hparse, hunmarshal⟩ := reads free (by decide)
  exact ⟨hparse, congrArg Prod.fst (hunmarshal _)⟩

/-! ## Texts of the same content -/

/-- What `json.marshal` returns is the text of the value as data. -/
theorem marshal_returns_iff {args values : List Value} {w : World F} :
    ((marshal.run args : Action F (List Value)).run.run w).1 = .ok values
      ↔ ∃ j, w.interpreter.heap.UnfoldsTo (Argument.nth args 0) j
        ∧ values = [.ofText j.render] := by
  simp only [← Heap.toJson_eq_ok_iff]
  rw [run_marshal]
  cases w.interpreter.heap.toJson (Argument.nth args 0) with
  | error e => simp
  | ok j => simp [eq_comm]

/-- A table with a number and a list, filled in this order. -/
def listed : Heap :=
  ⟨#[Table.ofItems .plain [.int 7, .bool true],
    Table.ofPairs [(.ofText "a", .int 1), (.ofText "b", .table 0)]]⟩

/-- The same, but everything is filled from the end. -/
def backwards : Heap :=
  ⟨#[Table.ofPairs [(.ofText "b", .table 1), (.ofText "a", .int 1)],
    Table.ofPairs [(.int 2, .bool true), (.int 1, .int 7)]]⟩

/-- A world in which a script has filled some tables. -/
def filled (heap : Heap) : World Empty :=
  ⟨{ Interpreter.fresh none with heap := heap }, {}⟩

theorem sameData_backwards :
    listed.SameData backwards (.table 1) (.table 0) := by
  let R (id id' : TableId) : Prop := (id, id') = (0, 1) ∨ (id, id') = (1, 0)
  have items : List.Forall₂ (Table.EntryMatches R)
      [(.int 1, .int 7), (.int 2, .bool true)]
      [(.int 1, .int 7), (.int 2, .bool true)] :=
    .cons ⟨rfl, rfl⟩ (.cons ⟨rfl, rfl⟩ .nil)
  have fields : List.Forall₂ (Table.EntryMatches R)
      [(.ofText "a", .int 1), (.ofText "b", .table 0)]
      [(.ofText "a", .int 1), (.ofText "b", .table 1)] :=
    .cons ⟨rfl, rfl⟩ (.cons ⟨rfl, .inl rfl⟩ .nil)
  refine ⟨R, fun id id' related => ?_, .inr rfl, fun id id' related => ?_⟩
  all_goals
    obtain related | related := related
    all_goals
      obtain ⟨rfl, rfl⟩ := Prod.mk.inj related
  · exact ⟨by decide, Table.proper_ofItems _ _, Table.proper_ofPairs _, _,
      items, by decide⟩
  · exact Table.matches_ofPairs ⟨by decide, by decide⟩
      ⟨by decide, by decide⟩ fields (by decide)
  · exact .inl (.inr (.inl (by decide)))
  · exact .inr (by decide)

/-- What becomes data with the one table or the other. -/
def contents : List Value :=
  [.table 0, .table 1, .int 1, .int 7, .bool true]

/-- No double becomes data with tables that hold nothing else. -/
theorem free_of_contents {heap : Heap}
    (closed : ∀ id ∈ [0, 1], ∀ p ∈ (heap.table id).parts, p ∈ contents)
    {id : TableId} (hid : .table id ∈ contents) (x : Binary64) :
    ¬ heap.Involves (.table id) (.float x) := by
  intro way
  have tables : ∀ id, .table id ∈ contents → id ∈ [0, 1] := fun id hid => by
    simpa [contents] using hid
  have hmem : Value.float x ∈ contents :=
    way.within (fun id hid => closed id (tables id hid)) hid
  simp [contents] at hmem

/-- Three items without the first one. -/
def gaps : List (Value × Value) :=
  [(.int 2, .bool true), (.int 3, .bool true), (.int 4, .bool true)]

/-- A table of one more entry that was filled with the items first. -/
def itemsFirst : Heap :=
  ⟨#[Table.ofPairs (gaps ++ [(.int 0, .bool true)])]⟩

/-- The same, but the items came last. -/
def itemsLast : Heap :=
  ⟨#[Table.ofPairs ((.int 0, .bool true) :: gaps)]⟩

end JsonFunction

end ScriptHost
