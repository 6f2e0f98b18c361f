/-
ScriptHost.Proofs.Xml.Segment — the stretches of text in a document.

`Cut` says how a document falls into markup and the stretches of text between
it, each with its blanks. The reader's events are these pieces, with every
stretch trimmed and left out if nothing remains of it (`eventsFrom_of_cut`).

So a document reads as what its trimmed pieces stand for
(`read_iff_segments`). To leave out the stretches of blanks alone would be
something else: `read_runs_together` has two words that only blanks keep
apart.
-/
import ScriptHost.Proofs.Xml.Escape
import ScriptHost.Proofs.Xml.Stream

namespace ScriptHost.Xml

/-! ## The pieces of a document -/

/-- Behind open elements, the text falls into the pieces: markup, and what
stands between one `<` and the next as one stretch. What is no markup ends
the pieces. -/
inductive Cut : List (List Char) → List Char → List Event → Prop
  | nil {opened : List (List Char)} : Cut opened [] []
  | text {opened : List (List Char)} {run rest : List Char}
    {pieces : List Event} (ne : run ≠ [])
    (inside : ∀ c ∈ run, isText c = true)
    (stops : ∀ c ∈ rest.head?, isText c = false)
    (later : Cut opened rest pieces) :
    Cut opened (run ++ rest) (.text run :: pieces)
  | markup {opened : List (List Char)} {cs : List Char} {e : Event}
    {place : Place} {pieces : List Event}
    (event : markup? opened cs = some (e, place))
    (later : Cut place.opened place.rest pieces) :
    Cut opened ('<' :: cs) (e :: pieces)
  | malformed {opened : List (List Char)} {cs : List Char}
    (event : markup? opened cs = none) : Cut opened ('<' :: cs) [.malformed]

/-- A stretch of text in front of a mark. -/
theorem Cut.before {opened : List (List Char)} {cs : List Char}
    {pieces : List Event} (run : List Char) (ne : run ≠ [])
    (inside : run.all isText = true) (later : Cut opened ('<' :: cs) pieces) :
    Cut opened (run ++ '<' :: cs) (.text run :: pieces) := by
  refine .text ne (List.all_eq_true.mp inside) ?_ later
  rintro c ⟨⟩
  rfl

/-- Every text falls into pieces. -/
theorem exists_cut (opened : List (List Char)) (cs : List Char) :
    ∃ pieces, Cut opened cs pieces := by
  induction hlen : cs.length using Nat.strongRecOn generalizing opened cs with
  | _ n ih =>
  cases cs with
  | nil => exact ⟨[], .nil⟩
  | cons c cs =>
  rw [List.length_cons] at hlen
  by_cases hc : isText c = true
  · have hle := (List.dropWhile_suffix isText (l := cs)).length_le
    obtain ⟨pieces, hpieces⟩ := ih (cs.dropWhile isText).length (by omega)
      opened (cs.dropWhile isText) rfl
    have hcut := Cut.text (List.cons_ne_nil c (cs.takeWhile isText))
      (List.forall_mem_cons.mpr ⟨hc, fun d hd => List.mem_takeWhile_imp hd⟩)
      (fun d hd => stops_of_mem_head? hd) hpieces
    rw [List.cons_append, List.takeWhile_append_dropWhile] at hcut
    exact ⟨_, hcut⟩
  · obtain rfl : c = '<' := by simpa [isText] using hc
    cases hmarkup : markup? opened cs with
    | none => exact ⟨_, .malformed hmarkup⟩
    | some found =>
      obtain ⟨e, place⟩ := found
      have hle := (markup_of_markup? hmarkup).suffix.length_le
      obtain ⟨pieces, hpieces⟩ := ih place.rest.length (by omega) place.opened
        place.rest rfl
      exact ⟨e :: pieces, .markup hmarkup hpieces⟩

/-- The piece as the reader passes it on: text without the blanks at its ends,
if there is more to it. -/
def Event.trimmed? : Event → Option Event
  | .text run =>
    if trimBoth run = [] then none else some (.text (trimBoth run))
  | e => some e

/-- The piece, unless it is text of blanks alone. -/
def Event.tidied? : Event → Option Event
  | .text run => if run.all isSpace then none else some (.text run)
  | e => some e

theorem trimmed?_of_ne_text {e : Event} (h : ∀ run, e ≠ .text run) :
    e.trimmed? = some e := by
  cases e with
  | text run => exact absurd rfl (h run)
  | _ => rfl

section Run

variable {run rest : List Char}

/-- Blanks in front of the rest do not matter. -/
theorem eventsFrom_blank (blank : ∀ c ∈ run, isSpace c = true) (fuel : Nat)
    (opened : List (List Char)) (rest : List Char) :
    eventsFrom (fuel + 1) ⟨opened, run ++ rest⟩
      = eventsFrom (fuel + 1) ⟨opened, rest⟩ := by
  simp only [eventsFrom, List.dropWhile_append_of_pos blank]

/-- A stretch of text that is more than blanks gives an event. -/
theorem eventsFrom_run (ne : trimBoth run ≠ [])
    (inside : ∀ c ∈ run, isText c = true)
    (stops : ∀ c ∈ rest.head?, isText c = false) (fuel : Nat)
    (opened : List (List Char)) :
    eventsFrom (fuel + 1) ⟨opened, run ++ rest⟩
      = .text (trimBoth run) :: eventsFrom fuel ⟨opened, rest⟩ := by
  have hrest : rest.takeWhile isText = [] ∧ rest.dropWhile isText = rest := by
    cases rest with
    | nil => exact ⟨rfl, rfl⟩
    | cons c rest => simp [stops c rfl]
  obtain ⟨c, cs, hrun⟩ : ∃ c cs, run.dropWhile isSpace = c :: cs :=
    List.exists_cons_of_ne_nil fun hnil => ne (by rw [trimBoth, hnil]; rfl)
  have hsub : ∀ d ∈ c :: cs, isText d = true := fun d hd =>
    inside d (List.dropWhile_subset _ (hrun ▸ hd))
  have hfront : (run ++ rest).dropWhile isSpace = c :: (cs ++ rest) := by
    rw [List.dropWhile_append, hrun]
    rfl
  have hc : c ≠ '<' := by simpa [isText] using hsub c List.mem_cons_self
  simp only [eventsFrom, hfront]
  split
  · simp at *
  · simp_all
  · rw [← List.cons_append, List.takeWhile_append_of_pos hsub,
      List.dropWhile_append_of_pos hsub, hrest.1, hrest.2, List.append_nil,
      ← hrun]
    rfl

end Run

/-- **The reader's events are the trimmed pieces.** -/
theorem eventsFrom_of_cut {opened : List (List Char)} {cs : List Char}
    {pieces : List Event} (cut : Cut opened cs pieces) {fuel : Nat}
    (hfuel : cs.length < fuel) :
    eventsFrom fuel ⟨opened, cs⟩ = pieces.filterMap Event.trimmed? := by
  obtain ⟨fuel, rfl⟩ : ∃ n, fuel = n + 1 := ⟨fuel - 1, by omega⟩
  induction cut generalizing fuel with
  | nil => rfl
  | @text opened run rest pieces ne inside stops _ ih =>
    rw [List.length_append] at hfuel
    have hpos := List.length_pos_of_ne_nil ne
    by_cases blank : trimBoth run = []
    · have hpiece : (Event.text run).trimmed? = none := if_pos blank
      rw [eventsFrom_blank (trimBoth_eq_nil_iff.mp blank), ih fuel (by omega),
        List.filterMap_cons_none hpiece]
    · have hpiece : (Event.text run).trimmed? = some (.text (trimBoth run)) :=
        if_neg blank
      obtain ⟨fuel, rfl⟩ : ∃ n, fuel = n + 1 := ⟨fuel - 1, by omega⟩
      rw [eventsFrom_run blank inside stops, ih fuel (by omega),
        List.filterMap_cons_some hpiece]
  | @markup opened cs e place pieces event _ ih =>
    have kind := markup_of_markup? event
    have hle := kind.suffix.length_le
    rw [List.length_cons] at hfuel
    obtain ⟨fuel, rfl⟩ : ∃ n, fuel = n + 1 := ⟨fuel - 1, by omega⟩
    rw [eventsFrom_markup event, ih fuel (by omega),
      List.filterMap_cons_some (trimmed?_of_ne_text kind.ne_text)]
  | malformed event =>
    have hspace : ¬ isSpace '<' = true := by decide
    simp only [eventsFrom, List.dropWhile_cons_of_neg hspace, event]
    rfl

/-! ## What a document reads as -/

/-- Stretches of blanks alone, and such with no blank at an end, are trimmed
and tidied alike. -/
theorem trimmed?_eq_tidied? {e : Event}
    (h : ∀ run, e = .text run → run.all isSpace = true ∨ Bare run) :
    e.trimmed? = e.tidied? := by
  cases e with
  | text run =>
    rw [Event.trimmed?, Event.tidied?]
    by_cases blank : ∀ c ∈ run, isSpace c = true
    · rw [if_pos (trimBoth_eq_nil_iff.mpr blank),
        if_pos (List.all_eq_true.mpr blank)]
    · have bare : Bare run :=
        (h run rfl).resolve_left (mt List.all_eq_true.mp blank)
      rw [if_neg (mt trimBoth_eq_nil_iff.mp blank), bare.trimBoth,
        if_neg (mt List.all_eq_true.mp blank)]
  | _ => rfl

/-- **The text of an element.** A document falls into markup and stretches of
text. It reads as the element that these pieces stand for once each stretch is
trimmed at both ends and left out if it was of blanks alone: the text of an
element is what stands directly in it, in order, with its references resolved.
If no stretch that is more than blanks has a blank at an end, this is the same
as only to leave out the stretches of blanks alone. -/
theorem read_iff_segments (document : String) :
    (∃ pieces, Cut [] (skipMark document.toList) pieces)
      ∧ ∀ pieces, Cut [] (skipMark document.toList) pieces →
        (∀ root, read document = .ok root
          ↔ Depicts (pieces.filterMap Event.trimmed?) root)
        ∧ ((∀ run, .text run ∈ pieces → run.all isSpace = true ∨ Bare run) →
          ∀ root, read document = .ok root
            ↔ Depicts (pieces.filterMap Event.tidied?) root) := by
  refine ⟨exists_cut [] _, fun pieces cut => ?_⟩
  have trimmed (root : XmlNode) : read document = .ok root
      ↔ Depicts (pieces.filterMap Event.trimmed?) root := by
    rw [← eventsFrom_of_cut cut (Nat.lt_succ_self _)]
    exact ofEvents_eq_ok_iff
  refine ⟨trimmed, fun apart root => ?_⟩
  have same : pieces.filterMap Event.trimmed?
      = pieces.filterMap Event.tidied? :=
    List.filterMap_congr fun e he => trimmed?_eq_tidied? fun run heq =>
      apart run (heq ▸ he)
  rw [trimmed, same]

/-- A document with a stretch of blanks alone, one with a blank between its
words, and a blank that is quoted. -/
def spaced : String := "<a>x y<b/> <b/><![CDATA[ z]]></a>"

/-- The pieces of `spaced`. -/
def spacedPieces : List Event :=
  [.start ['a'] [], .text "x y".toList, .empty ['b'] [], .text [' '],
    .empty ['b'] [], .cdata " z".toList, .close]

theorem read_spaced :
    Cut [] (skipMark spaced.toList) spacedPieces
      ∧ (∀ run, .text run ∈ spacedPieces → run.all isSpace = true ∨ Bare run)
      ∧ Depicts (spacedPieces.filterMap Event.tidied?)
        { name := "a", children := [{ name := "b" }, { name := "b" }],
          text := "x y z" } := by
  have cut : Cut [] (skipMark spaced.toList) spacedPieces := by
    refine .markup rfl (.before "x y".toList (by decide) rfl ?_)
    refine .markup rfl (.before [' '] (by decide) rfl ?_)
    exact .markup rfl (.markup rfl (.markup rfl .nil))
  have apart : ∀ run, .text run ∈ spacedPieces →
      run.all isSpace = true ∨ Bare run := by
    intro run hrun
    simp only [spacedPieces, List.mem_cons, List.not_mem_nil, reduceCtorEq,
      Event.text.injEq, false_or, or_false] at hrun
    rcases hrun with rfl | rfl
    · exact .inr (by decide)
    · exact .inl rfl
  exact ⟨cut, apart, (((read_iff_segments spaced).2 _ cut).2 apart _).mp rfl⟩

/-- A document in which only blanks keep two words apart. -/
def parted : String := "<a>x <b/> y</a>"

/-- The pieces of `parted`. -/
def partedPieces : List Event :=
  [.start ['a'] [], .text "x ".toList, .empty ['b'] [], .text " y".toList,
    .close]

/-- **Blanks next to a word are lost.** It is not so that only stretches of
blanks are left out. -/
theorem read_runs_together :
    ¬ ∀ (document : String) (pieces : List Event) (root : XmlNode),
      Cut [] (skipMark document.toList) pieces →
      read document = .ok root →
      Depicts (pieces.filterMap Event.tidied?) root := by
  intro h
  have cut : Cut [] (skipMark parted.toList) partedPieces := by
    refine .markup rfl (.before "x ".toList (by decide) rfl ?_)
    refine .markup rfl (.before " y".toList (by decide) rfl ?_)
    exact .markup rfl .nil
  have together : read parted
      = .ok { name := "a", children := [{ name := "b" }], text := "xy" } := rfl
  have apart : ofEvents (partedPieces.filterMap Event.tidied?)
      = .ok { name := "a", children := [{ name := "b" }], text := "x  y" } :=
    rfl
  rw [ofEvents_eq_ok_iff.mpr (h parted _ _ cut together)] at apart
  exact absurd (congrArg XmlNode.text (Except.ok.inj apart)) (by decide)

end ScriptHost.Xml
