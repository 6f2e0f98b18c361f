/-
ScriptHost.Proofs.Text.Trim — a text and the padding around it.

What counts as padding is a matter of the place: blanks of every script in
lists of rules, blanks of ASCII in markup. Whatever the kind, to take it off
both ends is to find the one text without any at its ends that the whole text
pads (`unpad_eq_iff`).
-/
import Mathlib.Data.List.Basic
import Mathlib.Data.List.TakeWhile
import ScriptHost.Text.Blank

namespace ScriptHost

/-- Characters without those of a kind at both ends. -/
def unpad (p : Char → Bool) (cs : List Char) : List Char :=
  ((cs.dropWhile p).reverse.dropWhile p).reverse

/-- No character of a kind stands at either end. -/
def Unpadded (p : Char → Bool) (cs : List Char) : Prop :=
  (∀ c ∈ cs.head?, p c = false) ∧ ∀ c ∈ cs.getLast?, p c = false

/-- The characters are those of a core that is unpadded, with characters of
the kind before and behind it. -/
def Pads (p : Char → Bool) (cs core : List Char) : Prop :=
  Unpadded p core ∧ ∃ front back, cs = front ++ (core ++ back)
    ∧ (∀ c ∈ front, p c = true) ∧ ∀ c ∈ back, p c = true

section Padding

variable {p : Char → Bool} {cs core : List Char}

/-- What is dropped ends in front of a character of another kind. -/
theorem stops_of_mem_head? {c : Char} (h : c ∈ (cs.dropWhile p).head?) :
    p c = false := by
  have hstop := List.head?_dropWhile_not p cs
  rw [Option.mem_def.mp h] at hstop
  exact hstop

/-- There is nothing in front to drop. -/
theorem dropWhile_of_head? (h : ∀ c ∈ cs.head?, p c = false) :
    cs.dropWhile p = cs := by
  cases cs with
  | nil => rfl
  | cons c cs => exact List.dropWhile_cons_of_neg (by simp [h c rfl])

theorem unpad_padding (h : ∀ c ∈ cs, p c = true) : unpad p cs = [] := by
  rw [unpad, List.dropWhile_eq_nil_iff.mpr h]
  rfl

theorem Pads.unpad (h : Pads p cs core) : unpad p cs = core := by
  obtain ⟨⟨hhead, hlast⟩, front, back, rfl, hfront, hback⟩ := h
  cases core with
  | nil => exact unpad_padding (List.forall_mem_append.mpr ⟨hfront, hback⟩)
  | cons c core =>
    have hleft : (c :: core ++ back).dropWhile p = c :: core ++ back :=
      dropWhile_of_head? hhead
    have hright : (c :: core).reverse.dropWhile p = (c :: core).reverse :=
      dropWhile_of_head? (by rwa [List.head?_reverse])
    rw [ScriptHost.unpad, List.dropWhile_append_of_pos hfront, hleft,
      List.reverse_append, List.dropWhile_append_of_pos
        fun d hd => hback d (List.mem_reverse.mp hd),
      hright, List.reverse_reverse]

/-- Only padding is taken off. -/
theorem pads_unpad (p : Char → Bool) (cs : List Char) :
    Pads p cs (ScriptHost.unpad p cs) := by
  obtain ⟨back, hcut, hback⟩ : ∃ back,
      cs.dropWhile p = ScriptHost.unpad p cs ++ back
        ∧ ∀ c ∈ back, p c = true := by
    refine ⟨((cs.dropWhile p).reverse.takeWhile p).reverse, ?_, fun c hc =>
      List.mem_takeWhile_imp (List.mem_reverse.mp hc)⟩
    rw [ScriptHost.unpad, ← List.reverse_append,
      List.takeWhile_append_dropWhile, List.reverse_reverse]
  refine ⟨⟨fun c hc => ?_, fun c hc => ?_⟩, cs.takeWhile p, back, ?_,
    fun c hc => List.mem_takeWhile_imp hc, hback⟩
  · have hhead : c ∈ (cs.dropWhile p).head? := by
      rw [hcut]
      exact List.mem_head?_append_of_mem_head? hc
    exact stops_of_mem_head? hhead
  · rw [ScriptHost.unpad, List.getLast?_reverse] at hc
    exact stops_of_mem_head? hc
  · rw [← hcut, List.takeWhile_append_dropWhile]

/-- **To take the padding off is to find what is padded.** -/
theorem unpad_eq_iff : unpad p cs = core ↔ Pads p cs core :=
  ⟨fun h => h ▸ pads_unpad p cs, Pads.unpad⟩

theorem unpad_eq_nil_iff : unpad p cs = [] ↔ ∀ c ∈ cs, p c = true := by
  refine ⟨fun h => ?_, unpad_padding⟩
  obtain ⟨-, front, back, rfl, hfront, hback⟩ := unpad_eq_iff.mp h
  exact List.forall_mem_append.mpr ⟨hfront, hback⟩

end Padding

theorem trimChars_eq (cs : List Char) : trimChars cs = unpad isBlank cs := rfl

end ScriptHost
