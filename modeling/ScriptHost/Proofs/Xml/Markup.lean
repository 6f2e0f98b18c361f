/-
ScriptHost.Proofs.Xml.Markup — what a piece of markup can be.

`Markup` lists the ways in which text behind a `<` gives an event, with the
place behind it. Everything that is true of all markup follows from this list
by cases: that something is taken off the front (`suffix`), and what becomes
of the names of the open elements.
-/
import Mathlib.Data.List.Basic
import ScriptHost.Xml.Event

namespace ScriptHost.Xml

/-! ## What stands behind a mark -/

section Behind

variable {mark front tail cs : List Char}

theorem stripFront?_eq (h : stripFront? mark cs = some tail) :
    cs = mark ++ tail := by
  induction mark generalizing cs with
  | nil => cases cs <;> exact Option.some.inj h
  | cons p mark ih =>
    cases cs with
    | nil => cases h
    | cons c cs =>
      rw [stripFront?] at h
      split at h
      · next heq => rw [heq, ih h, List.cons_append]
      · cases h

/-- What is cut off, the mark and the rest are the text. -/
theorem cut?_eq (h : cut? mark cs = some (front, tail)) :
    cs = front ++ (mark ++ tail) := by
  induction cs generalizing front with
  | nil =>
    rw [cut?] at h
    obtain ⟨rest, hrest, heq⟩ := Option.map_eq_some_iff.mp h
    cases heq
    rw [List.nil_append]
    exact stripFront?_eq hrest
  | cons c cs ih =>
    rw [cut?] at h
    split at h
    · next rest hrest =>
      cases h
      rw [List.nil_append]
      exact stripFront?_eq hrest
    · obtain ⟨⟨front', tail'⟩, hcut, heq⟩ := Option.map_eq_some_iff.mp h
      cases heq
      rw [ih hcut, List.cons_append]

/-- A character in front belongs to what is cut off. -/
theorem exists_front {found : Option (List Char × List Char)} {c : Char}
    (h : found.map (fun p => (c :: p.1, p.2)) = some (front, tail)) :
    ∃ behind, front = c :: behind ∧ found = some (behind, tail) := by
  obtain ⟨⟨behind, rest⟩, hfound, heq⟩ := Option.map_eq_some_iff.mp h
  cases heq
  exact ⟨behind, rfl, hfound⟩

/-- A tag, its end and the rest are the text. -/
theorem cutTag?_eq {quote : Option Char}
    (h : cutTag? quote cs = some (front, tail)) :
    cs = front ++ '>' :: tail := by
  induction cs generalizing quote front with
  | nil => cases h
  | cons c cs ih =>
    rw [cutTag?.eq_def] at h
    dsimp only at h
    split at h
    · obtain ⟨behind, rfl, hcut⟩ := exists_front h
      rw [ih hcut, List.cons_append]
    · split at h
      · next hend => cases h; rw [hend, List.nil_append]
      · obtain ⟨behind, rfl, hcut⟩ := exists_front h
        rw [ih hcut, List.cons_append]

theorem cutNested?_eq {depth : Nat}
    (h : cutNested? depth cs = some (front, tail)) :
    cs = front ++ '>' :: tail := by
  induction cs generalizing depth front with
  | nil => cases h
  | cons c cs ih =>
    rw [cutNested?.eq_def] at h
    dsimp only at h
    split at h
    · obtain ⟨behind, rfl, hcut⟩ := exists_front h
      rw [ih hcut, List.cons_append]
    · split at h
      · next hend =>
        split at h
        · cases h; rw [hend, List.nil_append]
        · obtain ⟨behind, rfl, hcut⟩ := exists_front h
          rw [ih hcut, List.cons_append]
      · obtain ⟨behind, rfl, hcut⟩ := exists_front h
        rw [ih hcut, List.cons_append]

end Behind

/-! ## The kinds of markup -/

/-- Does the character, behind `<`, begin something else than the tag of an
element? -/
def isSign (c : Char) : Bool := c = '!' || c = '/' || c = '?'

/-- Behind open elements, the text behind a `<` gives the event, and the
reader goes on at the place. -/
inductive Markup : List (List Char) → List Char → Event → Place → Prop
  | other {opened : List (List Char)} {cs rest : List Char}
    (behind : rest <:+ cs) : Markup opened cs .other ⟨opened, rest⟩
  | cdata {opened : List (List Char)} {cs text rest : List Char}
    (behind : rest <:+ cs) : Markup opened cs (.cdata text) ⟨opened, rest⟩
  | close {opened : List (List Char)} {cs inside rest : List Char}
    (tag : cutTag? none cs = some (inside, rest)) :
    Markup (closingName inside :: opened) ('/' :: cs) .close ⟨opened, rest⟩
  | empty {opened : List (List Char)} {cs inside rest : List Char}
    (first : ∀ c ∈ cs.head?, isSign c = false)
    (tag : cutTag? none cs = some (inside ++ ['/'], rest)) :
    Markup opened cs (.empty (splitName inside).1 (splitName inside).2)
      ⟨opened, rest⟩
  | start {opened : List (List Char)} {cs inside rest : List Char}
    (first : ∀ c ∈ cs.head?, isSign c = false)
    (tag : cutTag? none cs = some (inside, rest)) :
    Markup opened cs (.start (splitName inside).1 (splitName inside).2)
      ⟨(splitName inside).1 :: opened, rest⟩

section Markup

variable {opened : List (List Char)} {cs : List Char} {e : Event}
  {place : Place}

theorem markup_of_endTag? {inside rest : List Char}
    (tag : cutTag? none cs = some (inside, rest))
    (h : endTag? opened inside rest = some (e, place)) :
    Markup opened ('/' :: cs) e place := by
  cases opened with
  | nil => cases h
  | cons name outer =>
    rw [endTag?] at h
    split at h
    · next hname =>
      cases h
      exact hname ▸ .close tag
    · cases h

theorem markup_of_startTag (opened : List (List Char))
    {inside rest : List Char}
    (first : ∀ c ∈ cs.head?, isSign c = false)
    (tag : cutTag? none cs = some (inside, rest)) :
    Markup opened cs (startTag opened inside rest).1
      (startTag opened inside rest).2 := by
  unfold startTag
  split
  · next front hfront =>
    have hinside : inside = front.reverse ++ ['/'] := by
      rw [← List.reverse_cons, ← hfront, List.reverse_reverse]
    exact .empty first (hinside ▸ tag)
  · exact .start first tag

theorem markup_of_declaration?
    (h : declaration? opened cs = some (e, place)) :
    Markup opened ('!' :: cs) e place := by
  unfold declaration? at h
  split at h
  · next inside _ hstrip =>
    obtain ⟨⟨front, rest⟩, hcut, h⟩ := Option.map_eq_some_iff.mp h
    cases h
    refine .other ⟨'!' :: ("--".toList ++ (front ++ "-->".toList)), ?_⟩
    rw [stripFront?_eq hstrip, cut?_eq hcut]
    simp only [List.append_assoc, List.cons_append]
  · next inside _ hstrip =>
    obtain ⟨⟨text, rest⟩, hcut, h⟩ := Option.map_eq_some_iff.mp h
    cases h
    refine .cdata ⟨'!' :: ("[CDATA[".toList ++ (text ++ "]]>".toList)), ?_⟩
    rw [stripFront?_eq hstrip, cut?_eq hcut]
    simp only [List.append_assoc, List.cons_append]
  · dsimp only at h
    split at h
    · cases h
    · obtain ⟨⟨inside, rest⟩, hcut, h⟩ := Option.bind_eq_some_iff.mp h
      dsimp only at h
      split at h
      · cases h
      · cases h
        refine .other ⟨'!' :: (cs.take "DOCTYPE".toList.length
          ++ (inside ++ ['>'])), ?_⟩
        conv_rhs => rw [← List.take_append_drop "DOCTYPE".toList.length cs,
          cutNested?_eq hcut]
        simp only [List.append_assoc, List.cons_append, List.nil_append]

/-- **What gives an event is markup of one of the kinds.** -/
theorem markup_of_markup? (h : markup? opened cs = some (e, place)) :
    Markup opened cs e place := by
  unfold markup? at h
  split at h
  · cases h
  · exact markup_of_declaration? h
  · obtain ⟨⟨inside, rest⟩, tag, h⟩ := Option.bind_eq_some_iff.mp h
    exact markup_of_endTag? tag h
  · cases h
  · next cs _ =>
    obtain ⟨⟨front, rest⟩, hcut, h⟩ := Option.map_eq_some_iff.mp h
    cases h
    refine .other ⟨'?' :: (front ++ "?>".toList), ?_⟩
    rw [cut?_eq hcut]
    simp only [List.append_assoc, List.cons_append]
  · next hbang hslash _ hquestion =>
    obtain ⟨⟨inside, rest⟩, tag, h⟩ := Option.map_eq_some_iff.mp h
    have first : ∀ c ∈ cs.head?, isSign c = false := by
      rintro c hc
      obtain ⟨cs', rfl⟩ := List.head?_eq_some_iff.mp hc
      have hb : c ≠ '!' := by rintro rfl; exact hbang _ rfl
      have hs : c ≠ '/' := by rintro rfl; exact hslash _ rfl
      have hq : c ≠ '?' := by rintro rfl; exact hquestion _ rfl
      simp [isSign, hb, hs, hq]
    have hpair : startTag opened inside rest = (e, place) := h
    have hmarkup := markup_of_startTag opened first tag
    rw [hpair] at hmarkup
    exact hmarkup

/-- Markup takes something off the front. -/
theorem Markup.suffix (h : Markup opened cs e place) : place.rest <:+ cs := by
  have behind {cs inside rest : List Char}
      (tag : cutTag? none cs = some (inside, rest)) : rest <:+ cs := by
    rw [cutTag?_eq tag]
    exact ⟨inside ++ ['>'], by simp⟩
  cases h with
  | other hbehind => exact hbehind
  | cdata hbehind => exact hbehind
  | close tag => exact (behind tag).trans (List.suffix_cons ..)
  | empty _ tag => exact behind tag
  | start _ tag => exact behind tag

/-- Markup is not a stretch of text. -/
theorem Markup.ne_text (h : Markup opened cs e place) (run : List Char) :
    e ≠ .text run := by
  cases h <;> nofun

end Markup

/-- Markup gives one event. -/
theorem eventsFrom_markup {opened : List (List Char)} {cs : List Char}
    {event : Event} {place : Place}
    (h : markup? opened cs = some (event, place)) (fuel : Nat) :
    eventsFrom (fuel + 1) ⟨opened, '<' :: cs⟩
      = event :: eventsFrom fuel place := by
  have hspace : ¬ isSpace '<' = true := by decide
  simp only [eventsFrom, List.dropWhile_cons_of_neg hspace, h]

end ScriptHost.Xml
