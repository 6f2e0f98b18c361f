/-
ScriptHost.Proofs.Json.Text — data that was written reads back.

The text of data without doubles says exactly what the data is (`Exact`).
The words of the data scan (`scans_tokens`), and the reader goes over them
with the arrays and objects around the data on its stack and comes out behind
the data (`read_tokens`), as long as there are not too many of these around
it. `parse?_render` puts the two together.
-/
import ScriptHost.Json.Text
import ScriptHost.Proofs.Json.Normal
import ScriptHost.Proofs.Json.Token

namespace ScriptHost.Json

/-! ## Data that its text says exactly -/

/-- Data without doubles. -/
def FloatFree : Json → Prop :=
  Everywhere fun
    | float _ => False
    | _ => True

/-- Data without doubles whose integers are of 64 bits, with or without a
sign. -/
def Exact : Json → Prop :=
  Everywhere fun
    | int i => Word.minSigned ≤ i ∧ i ≤ Word.max64
    | float _ => False
    | _ => True

mutual
/-- How many arrays and objects lie inside each other. -/
def depth : Json → Nat
  | arr items => depthItems items + 1
  | obj fields => depthFields fields + 1
  | _ => 0

/-- The largest `depth` of an item. -/
def depthItems : List Json → Nat
  | [] => 0
  | j :: rest => max (depth j) (depthItems rest)

/-- The largest `depth` of a field. -/
def depthFields : List (String × Json) → Nat
  | [] => 0
  | (_, j) :: rest => max (depth j) (depthFields rest)
end

theorem depth_le_items {items : List Json} {j : Json} (h : j ∈ items) :
    depth j ≤ depthItems items := by
  induction items with
  | nil => cases h
  | cons head rest ih =>
    rw [depthItems]
    rcases List.mem_cons.mp h with rfl | h
    · exact Nat.le_max_left _ _
    · exact Nat.le_trans (ih h) (Nat.le_max_right _ _)

theorem depth_le_fields {fields : List (String × Json)}
    {f : String × Json} (h : f ∈ fields) :
    depth f.2 ≤ depthFields fields := by
  induction fields with
  | nil => cases h
  | cons head rest ih =>
    obtain ⟨k, j⟩ := head
    rw [depthFields]
    rcases List.mem_cons.mp h with rfl | h
    · exact Nat.le_max_left _ _
    · exact Nat.le_trans (ih h) (Nat.le_max_right _ _)

/-! ## Cutting the text -/

/-- Items with commas between them. -/
theorem scans_items {items : List Json}
    (h : ∀ j ∈ items, Token.Scans (tokens j)) :
    Token.Scans (itemTokens items) := by
  induction items with
  | nil => exact Token.scans_nil
  | cons j rest ih =>
    obtain ⟨hj, hrest⟩ := List.forall_mem_cons.mp h
    cases rest with
    | nil => exact hj
    | cons j' rest => exact hj.mark Token.isMark_comma (ih hrest)

/-- Fields with commas between them. -/
theorem scans_fields {fields : List (String × Json)}
    (h : ∀ f ∈ fields, Token.Scans (tokens f.2)) :
    Token.Scans (fieldTokens fields) := by
  induction fields with
  | nil => exact Token.scans_nil
  | cons f rest ih =>
    obtain ⟨k, j⟩ := f
    obtain ⟨hj, hrest⟩ := List.forall_mem_cons.mp h
    have hfield : Token.Scans (.str k :: .colon :: tokens j) :=
      (Token.scans_str k).mark Token.isMark_colon hj
    cases rest with
    | nil => exact hfield
    | cons f' rest => exact hfield.mark Token.isMark_comma (ih hrest)

/-- **The words of exact data scan.** -/
theorem scans_tokens {j : Json} (exact : Exact j) :
    Token.Scans (tokens j) := by
  induction j with
  | null => exact Token.scans_null
  | bool b => exact Token.scans_bool b
  | int i => exact Token.scans_int exact.1 exact.2
  | float x => exact exact.elim
  | str s => exact Token.scans_str s
  | arr items ih =>
    obtain ⟨-, hitems⟩ := everywhere_arr.mp exact
    have hinside := scans_items fun j hj => ih j hj (hitems j hj)
    exact Token.scans_nil.mark Token.isMark_openArr
      (hinside.mark Token.isMark_closeArr Token.scans_nil)
  | obj fields ih =>
    obtain ⟨-, hfields⟩ := everywhere_obj.mp exact
    have hinside := scans_fields fun f hf => ih f hf (hfields f hf)
    exact Token.scans_nil.mark Token.isMark_openObj
      (hinside.mark Token.isMark_closeObj Token.scans_nil)

theorem scan?_render {j : Json} (exact : Exact j) :
    Token.scan? (render j).toList = some (tokens j) := by
  have hscan := scans_tokens exact [] Token.apart_nil
  rw [List.append_nil] at hscan
  rw [render, String.toList_ofList, Token.scan?, hscan]
  show some (tokens j ++ []) = _
  rw [List.append_nil]

/-! ## Reading the words -/

/-- The reader comes out behind the data, with the same arrays and objects
around it. -/
def Reads (limit : Nat) (stack : List Frame) (j : Json) : Prop :=
  (tokens j).foldlM (Reader.step? limit) ⟨stack, .value⟩
    = some ⟨stack, .behind j⟩

section Reader

variable {limit : Nat} {stack : List Frame}

/-- After the data the reader goes on with the words behind it. -/
theorem Reads.append {j : Json} (h : Reads limit stack j)
    (more : List Token) :
    (tokens j ++ more).foldlM (Reader.step? limit) ⟨stack, .value⟩
      = more.foldlM (Reader.step? limit) ⟨stack, .behind j⟩ := by
  rw [List.foldlM_append, h]
  rfl

/-- The first word of data does not end an array. -/
theorem tokens_cons (j : Json) :
    ∃ t ts, tokens j = t :: ts ∧ t ≠ .closeArr := by
  cases j <;> exact ⟨_, _, rfl, nofun⟩

theorem itemTokens_more (j j' : Json) (rest : List Json) :
    itemTokens (j :: j' :: rest)
      = tokens j ++ .comma :: itemTokens (j' :: rest) := rfl

theorem fieldTokens_more (k : String) (j : Json) (f : String × Json)
    (rest : List (String × Json)) :
    fieldTokens ((k, j) :: f :: rest)
      = .str k :: .colon :: (tokens j ++ .comma :: fieldTokens (f :: rest)) :=
  rfl

/-- The first item of an array is read like any other. -/
theorem read_firstItem (j : Json) (rest : List Json) (frame : Frame)
    (more : List Token) :
    (itemTokens (j :: rest) ++ more).foldlM (Reader.step? limit)
        ⟨frame :: stack, .firstItem⟩
      = (itemTokens (j :: rest) ++ more).foldlM (Reader.step? limit)
        ⟨frame :: stack, .value⟩ := by
  obtain ⟨t, ts, htokens, hclose⟩ := tokens_cons j
  have hfirst : ∃ ts', itemTokens (j :: rest) = t :: ts' := by
    cases rest with
    | nil => exact ⟨ts, htokens⟩
    | cons j' rest => exact ⟨_, by rw [itemTokens_more, htokens]; rfl⟩
  obtain ⟨ts', hts'⟩ := hfirst
  have hstep : Reader.step? limit ⟨frame :: stack, .firstItem⟩ t
      = Reader.step? limit ⟨frame :: stack, .value⟩ t := by
    cases t <;> first | rfl | exact absurd rfl hclose
  rw [hts', List.cons_append, List.foldlM_cons, List.foldlM_cons, hstep]

/-- The items of an array, up to its end. -/
theorem read_items (rest : List Json) :
    ∀ (j : Json) (done : List Json),
      (∀ j' ∈ j :: rest, ∀ frame, Reads limit (frame :: stack) j') →
      (itemTokens (j :: rest) ++ [Token.closeArr]).foldlM (Reader.step? limit)
          ⟨.array done :: stack, .value⟩
        = some ⟨stack, .behind (arr (done.reverse ++ j :: rest))⟩ := by
  induction rest with
  | nil =>
    intro j done reads
    rw [itemTokens, (reads j (by simp) _).append]
    simp [Reader.step?, Reader.behind?]
  | cons j' rest ih =>
    intro j done reads
    obtain ⟨hj, hrest⟩ := List.forall_mem_cons.mp reads
    rw [itemTokens_more, List.append_assoc, (hj _).append,
      List.cons_append, List.foldlM_cons]
    refine (ih j' (j :: done) hrest).trans ?_
    simp

/-- A name, where one may come, and the colon behind it. -/
theorem read_key {phase : Phase}
    (name : phase = .firstKey ∨ phase = .nextKey) (done : Fields Json)
    (key k : String) (more : List Token) :
    (.str k :: .colon :: more).foldlM (Reader.step? limit)
        ⟨.object done key :: stack, phase⟩
      = more.foldlM (Reader.step? limit) ⟨.object done k :: stack, .value⟩ := by
  rcases name with rfl | rfl <;> rfl

/-- The next field of a row in key order is written at its end. -/
theorem insert_next {done rest : List (String × Json)} {k : String} {j : Json}
    (sorted : Fields.Sorted (done ++ (k, j) :: rest)) :
    Fields.insert k j done = done ++ [(k, j)] :=
  Fields.insert_last j fun f hf =>
    (List.pairwise_append.mp sorted).2.2 f hf (k, j) List.mem_cons_self

/-- The fields of an object, up to its end. -/
theorem read_fields (rest : List (String × Json)) :
    ∀ (f : String × Json) {done : Fields Json} {key : String}
      {phase : Phase}, phase = .firstKey ∨ phase = .nextKey →
      Fields.Sorted (done ++ f :: rest) →
      (∀ f' ∈ f :: rest, ∀ frame, Reads limit (frame :: stack) f'.2) →
      (fieldTokens (f :: rest) ++ [Token.closeObj]).foldlM
          (Reader.step? limit) ⟨.object done key :: stack, phase⟩
        = some ⟨stack, .behind (obj (done ++ f :: rest))⟩ := by
  induction rest with
  | nil =>
    rintro ⟨k, j⟩ done key phase name sorted reads
    rw [fieldTokens, List.cons_append, List.cons_append, read_key name,
      (reads (k, j) (by simp) _).append]
    simp [Reader.step?, Reader.behind?, insert_next sorted]
  | cons f' rest ih =>
    rintro ⟨k, j⟩ done key phase name sorted reads
    obtain ⟨hj, hrest⟩ := List.forall_mem_cons.mp reads
    rw [fieldTokens_more, List.cons_append, List.cons_append,
      read_key name, List.append_assoc, (hj _).append, List.cons_append,
      List.foldlM_cons]
    have hnext := @ih f' (done.insert k j) k .nextKey (.inr rfl)
      (by simpa [insert_next sorted] using sorted) hrest
    simpa [Reader.step?, Reader.behind?, insert_next sorted] using hnext

theorem open?_value (frame : Frame) (phase : Phase)
    (room : stack.length < limit) :
    Reader.open? limit ⟨stack, .value⟩ frame phase
      = some ⟨frame :: stack, phase⟩ :=
  if_pos room

/-- **The words of data in key order read as the data.** -/
theorem read_tokens {j : Json} (ordered : j.Ordered) :
    ∀ {stack : List Frame}, stack.length + j.depth ≤ limit →
      Reads limit stack j := by
  induction j with
  | null | bool | int | float | str => exact fun _ => rfl
  | arr items ih =>
    intro stack room
    have hordered := ordered_arr.mp ordered
    rw [depth] at room
    have hopen : Reader.step? limit ⟨stack, .value⟩ .openArr
        = some ⟨.array [] :: stack, .firstItem⟩ :=
      open?_value (.array []) .firstItem (by omega)
    have hitems : ∀ j ∈ items, ∀ frame, Reads limit (frame :: stack) j := by
      intro j hj frame
      have hdepth := depth_le_items hj
      exact ih j hj (hordered j hj) (by rw [List.length_cons]; omega)
    rw [Reads, tokens, List.foldlM_cons, hopen]
    cases items with
    | nil => rfl
    | cons j rest =>
      exact (read_firstItem j rest _ _).trans (read_items rest j [] hitems)
  | obj fields ih =>
    intro stack room
    obtain ⟨hsorted, hordered⟩ := ordered_obj.mp ordered
    rw [depth] at room
    have hopen : Reader.step? limit ⟨stack, .value⟩ .openObj
        = some ⟨.object [] "" :: stack, .firstKey⟩ :=
      open?_value (.object [] "") .firstKey (by omega)
    have hfields : ∀ f ∈ fields, ∀ frame,
        Reads limit (frame :: stack) f.2 := by
      intro f hf frame
      have hdepth := depth_le_fields hf
      exact ih f hf (hordered f hf) (by rw [List.length_cons]; omega)
    rw [Reads, tokens, List.foldlM_cons, hopen]
    cases fields with
    | nil => rfl
    | cons f rest => exact read_fields rest f (.inl rfl) hsorted hfields

end Reader

/-- **What was written reads back.** -/
theorem parse?_render {j : Json} (exact : Exact j) (ordered : j.Ordered)
    (shallow : j.depth ≤ depthLimit) : parse? j.render = some j := by
  have hread : Reads depthLimit [] j :=
    read_tokens ordered (by simpa using shallow)
  rw [parse?, scan?_render exact, Option.bind_some, ofTokens?,
    ofTokensWithin?, hread]

/-- **Different data is never written alike.** However deep the data is, a
reader with that much room would read it back. -/
theorem render_injective {j j' : Json} (exact : Exact j) (exact' : Exact j')
    (ordered : j.Ordered) (ordered' : j'.Ordered)
    (same : j.render = j'.render) : j = j' := by
  have htokens : tokens j = tokens j' := by
    have hscan := scan?_render exact
    rw [same, scan?_render exact'] at hscan
    exact (Option.some.inj hscan).symm
  have hread : Reads (max j.depth j'.depth) [] j :=
    read_tokens ordered (by simp)
  have hread' : Reads (max j.depth j'.depth) [] j' :=
    read_tokens ordered' (by simp)
  rw [Reads, htokens, hread'] at hread
  simpa using hread.symm

end ScriptHost.Json
