/-
ScriptHost.Proofs.Data.Since — what was there last in a history.

A history is a list that grows at its end. `Since p q` says that something
of the kind `p` stands in it, and after that only what is of the kind `q`.
`since_concat` tells it from the latest entry, `since_cons` from the oldest,
and `since_filter` says that entries which make no difference may be left
out.
-/
import Mathlib.Data.List.Induction

namespace ScriptHost

variable {A : Type} {p q : A → Prop}

/-- Something of one kind was there, and since then only what is of another
kind. -/
def Since (p q : A → Prop) (past : List A) : Prop :=
  ∃ before x after, past = before ++ x :: after ∧ p x ∧ ∀ y ∈ after, q y

theorem not_since_nil : ¬ Since p q [] := by
  rintro ⟨before, x, after, hnil, -⟩
  simp at hnil

/-- The latest entry is what is looked for, or lets it stand. -/
theorem since_concat (past : List A) (x : A) :
    Since p q (past ++ [x]) ↔ p x ∨ (q x ∧ Since p q past) := by
  constructor
  · rintro ⟨before, y, after, hsplit, hp, hq⟩
    rcases List.eq_nil_or_concat after with rfl | ⟨after, z, rfl⟩
    · obtain ⟨-, hlast⟩ := List.append_inj' hsplit rfl
      obtain rfl := (List.cons.inj hlast).1
      exact .inl hp
    · have hsplit : past ++ [x] = (before ++ y :: after) ++ [z] := by
        simpa using hsplit
      obtain ⟨hpast, hlast⟩ := List.append_inj' hsplit rfl
      obtain rfl := (List.cons.inj hlast).1
      exact .inr ⟨hq x (by simp), before, y, after, hpast, hp,
        fun z hz => hq z (by simp [hz])⟩
  · rintro (hp | ⟨hq, before, y, after, rfl, hp, hafter⟩)
    · exact ⟨past, x, [], rfl, hp, nofun⟩
    · refine ⟨before, y, after ++ [x], by simp, hp, fun z hz => ?_⟩
      rcases List.mem_append.mp hz with hz | hz
      · exact hafter z hz
      · rw [List.mem_singleton.mp hz]
        exact hq

/-- The oldest entry is what is looked for, or something later is. -/
theorem since_cons (x : A) (rest : List A) :
    Since p q (x :: rest) ↔ (p x ∧ ∀ y ∈ rest, q y) ∨ Since p q rest := by
  constructor
  · rintro ⟨before, y, after, hsplit, hp, hq⟩
    cases before with
    | nil =>
      obtain ⟨rfl, rfl⟩ := List.cons.inj hsplit
      exact .inl ⟨hp, hq⟩
    | cons b before =>
      obtain ⟨-, rfl⟩ := List.cons.inj hsplit
      exact .inr ⟨before, y, after, rfl, hp, hq⟩
  · rintro (⟨hp, hq⟩ | ⟨before, y, after, rfl, hp, hq⟩)
    · exact ⟨[], x, rest, rfl, hp, hq⟩
    · exact ⟨x :: before, y, after, rfl, hp, hq⟩

/-- What matters less may be asked of the entries. -/
theorem Since.imp {p' q' : A → Prop} {past : List A} (h : Since p q past)
    (hp : ∀ x ∈ past, p x → p' x) (hq : ∀ x ∈ past, q x → q' x) :
    Since p' q' past := by
  obtain ⟨before, x, after, rfl, hx, hafter⟩ := h
  exact ⟨before, x, after, rfl, hp x (by simp) hx,
    fun y hy => hq y (by simp [hy]) (hafter y hy)⟩

/-- Entries that are not looked for and let everything stand make no
difference. -/
theorem since_filter {keep : A → Bool} (hp : ∀ x, p x → keep x = true)
    (hq : ∀ x, keep x = false → q x) (past : List A) :
    Since p q (past.filter keep) ↔ Since p q past := by
  induction past using List.reverseRecOn with
  | nil => rfl
  | append_singleton past x ih =>
    rw [List.filter_append, since_concat, ← ih]
    cases hx : keep x with
    | true => rw [List.filter_cons_of_pos hx, List.filter_nil, since_concat]
    | false =>
      have hnot : ¬ p x := fun h => by simp [hp x h] at hx
      rw [List.filter_cons_of_neg (by simp [hx]), List.filter_nil,
        List.append_nil]
      simp [hnot, hq x hx]

end ScriptHost
