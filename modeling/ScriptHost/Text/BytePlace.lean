/-
ScriptHost.Text.BytePlace — places in a text, counted in bytes.

A place is how many bytes of UTF-8 stand in front of it. `cutBytes?` takes
out what stands between two places, and `splitBytes?` cuts a text in two; a
place inside a character, or behind the end of the text, is none to cut at.
The place that `placeOf` finds always is one (`splitBytes?_placeOf`).
-/

namespace ScriptHost

/-- How many bytes characters take. -/
def byteLength (cs : List Char) : Nat :=
  cs.foldr (fun c n => c.utf8Size + n) 0

/-- What stands behind a place. -/
def dropBytes? : Nat → List Char → Option (List Char)
  | 0, cs => some cs
  | _ + 1, [] => none
  | n + 1, c :: cs =>
    if c.utf8Size ≤ n + 1 then dropBytes? (n + 1 - c.utf8Size) cs else none

/-- What stands in front of a place. -/
def takeBytes? : Nat → List Char → Option (List Char)
  | 0, _ => some []
  | _ + 1, [] => none
  | n + 1, c :: cs =>
    if c.utf8Size ≤ n + 1 then
      (takeBytes? (n + 1 - c.utf8Size) cs).map (c :: ·)
    else none

/-- What stands between two places. -/
def cutBytes? (first last : Nat) (cs : List Char) : Option (List Char) :=
  (dropBytes? first cs).bind (takeBytes? (last - first))

/-- What stands in front of a place, and what stands behind it. -/
def splitBytes? (n : Nat) (cs : List Char) :
    Option (List Char × List Char) :=
  match takeBytes? n cs, dropBytes? n cs with
  | some front, some rest => some (front, rest)
  | _, _ => none

/-- The place of the first character of a kind, or the end of the text. -/
def placeOf (p : Char → Bool) : List Char → Nat
  | [] => 0
  | c :: cs => if p c then 0 else c.utf8Size + placeOf p cs

theorem dropBytes?_cons (n : Nat) (c : Char) (cs : List Char) :
    dropBytes? (c.utf8Size + n) (c :: cs) = dropBytes? n cs := by
  obtain ⟨m, hm⟩ :=
    Nat.exists_eq_add_one_of_ne_zero (Nat.ne_of_gt c.utf8Size_pos)
  rw [hm, Nat.add_right_comm, dropBytes?, hm, if_pos (by omega)]
  congr 1
  omega

theorem takeBytes?_cons (n : Nat) (c : Char) (cs : List Char) :
    takeBytes? (c.utf8Size + n) (c :: cs)
      = (takeBytes? n cs).map (c :: ·) := by
  obtain ⟨m, hm⟩ :=
    Nat.exists_eq_add_one_of_ne_zero (Nat.ne_of_gt c.utf8Size_pos)
  rw [hm, Nat.add_right_comm, takeBytes?, hm, if_pos (by omega)]
  congr 2
  omega

/-- The place behind some characters is one to cut at. -/
theorem dropBytes?_append (front rest : List Char) :
    dropBytes? (byteLength front) (front ++ rest) = some rest := by
  induction front with
  | nil => simp [byteLength, dropBytes?]
  | cons c cs ih => exact (dropBytes?_cons _ c _).trans ih

/-- In front of that place stand these characters. -/
theorem takeBytes?_append (front rest : List Char) :
    takeBytes? (byteLength front) (front ++ rest) = some front := by
  induction front with
  | nil => simp [byteLength, takeBytes?]
  | cons c cs ih =>
    exact (takeBytes?_cons (byteLength cs) c (cs ++ rest)).trans
      (by rw [ih, Option.map_some])

theorem placeOf_eq (p : Char → Bool) (cs : List Char) :
    placeOf p cs = byteLength (cs.takeWhile fun c => !p c) := by
  induction cs with
  | nil => rfl
  | cons c cs ih =>
    unfold placeOf
    cases hc : p c with
    | true => simp [hc, byteLength]
    | false =>
      rw [List.takeWhile_cons_of_pos (by simp [hc]), if_neg (by decide), ih]
      rfl

/-- **A character that is looked for begins where the text can be cut.** -/
theorem splitBytes?_placeOf (p : Char → Bool) (cs : List Char) :
    splitBytes? (placeOf p cs) cs
      = some (cs.takeWhile fun c => !p c, cs.dropWhile fun c => !p c) := by
  have htake := takeBytes?_append (cs.takeWhile fun c => !p c)
    (cs.dropWhile fun c => !p c)
  have hdrop := dropBytes?_append (cs.takeWhile fun c => !p c)
    (cs.dropWhile fun c => !p c)
  rw [List.takeWhile_append_dropWhile, ← placeOf_eq] at htake hdrop
  simp only [splitBytes?, htake, hdrop]

end ScriptHost
