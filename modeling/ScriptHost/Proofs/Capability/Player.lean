/-
ScriptHost.Proofs.Capability.Player — players looked up by number.

A player is looked up by an integer or by a double, and a double stands for a
player if it is a whole number (`run_key`). Doubles reach further than the
numbers of players: one that is beyond them stands for the last one. So
`find_asks` says which numbers are asked for exactly, and which two numbers
are taken for one, as those of `find_saturates` are.
-/
import ScriptHost.Capability.Player
import ScriptHost.Host.Canned
import ScriptHost.Proofs.Number.Binary64
import ScriptHost.Proofs.Script.Careful

namespace ScriptHost

variable {F : Type}

namespace Value

/-- The number that a value is: none for the infinities, for what is not a
number, and for all other values. -/
def toRat? : Value → Option ℚ
  | .int i => some i.toInt
  | .float x => if x.isFinite then some x.toRat else none
  | _ => none

/-- The number of a double that is not negative, from its parts. -/
theorem toRat?_float {x : Binary64} {m : Nat} {e : Int}
    (finite : x.isFinite = true) (sign : x.negative = false)
    (parts : x.significand = (m, e)) :
    (Value.float x).toRat? = some (m * (2 : ℚ) ^ e) := by
  rw [toRat?, if_pos finite, Binary64.toRat, sign, parts]
  simp

/-- It is a number of one kind or the other. -/
def IsNumber : Value → Prop
  | .int _ => True
  | .float _ => True
  | _ => False

end Value

namespace PlayerFunction

open ScriptHost.Action

/-! ## The number of a player -/

theorem clamp_of_signed {n : Int} (low : Word.minSigned ≤ n)
    (high : n ≤ Word.maxSigned) : clamp n = n := by
  simp only [clamp, Word.minSigned, Word.maxSigned] at *
  omega

theorem clamp_of_ge {n : Int} (h : Word.maxSigned ≤ n) :
    clamp n = Word.maxSigned := by
  simp only [clamp, Word.minSigned, Word.maxSigned] at *
  omega

theorem clamp_of_le {n : Int} (h : n ≤ Word.minSigned) :
    clamp n = Word.minSigned := by
  simp only [clamp, Word.minSigned, Word.maxSigned] at *
  omega

/-- Two integers lead to one number only at the ends. -/
theorem clamp_inj {n m : Int} (h : clamp n = clamp m) :
    n = m ∨ (Word.maxSigned ≤ n ∧ Word.maxSigned ≤ m)
      ∨ (n ≤ Word.minSigned ∧ m ≤ Word.minSigned) := by
  simp only [clamp, Word.minSigned, Word.maxSigned] at *
  omega

/-- A number stands for a player if it is an integer. -/
theorem run_key {v : Value} (number : v.IsNumber) (w : World F) :
    (∃ n : ℤ, v.toRat? = some (n : ℚ)
        ∧ (key v : Action F PlayerKey).run.run w = (.ok (.id (clamp n)), w))
      ∨ ((∀ n : ℤ, v.toRat? ≠ some (n : ℚ))
        ∧ (key v : Action F PlayerKey).run.run w
          = (.error (.raised (.complaint (.playerKey "number"))), w)) := by
  cases v with
  | int id =>
    refine .inl ⟨id.toInt, rfl, ?_⟩
    rw [clamp_of_signed id.le_toInt (Int.le_of_lt_add_one id.toInt_lt)]
    rfl
  | float x =>
    rw [Value.toRat?, key]
    cases hfinite : x.isFinite with
    | false =>
      refine .inr ⟨fun n => by simp, ?_⟩
      rw [Binary64.truncate?, hfinite]
      rfl
    | true =>
      rw [if_pos rfl]
      by_cases hwhole : ∃ n : ℤ, x.toRat = n
      · obtain ⟨n, hn⟩ := hwhole
        obtain ⟨htruncate, hintegral⟩ := Binary64.truncate?_of_toRat hfinite hn
        refine .inl ⟨n, congrArg some hn, ?_⟩
        rw [htruncate]
        dsimp only
        rw [if_pos hintegral]
        rfl
      · refine .inr ⟨fun n hn => hwhole ⟨n, Option.some.inj hn⟩, ?_⟩
        have hbroken : x.isIntegral = false := Bool.eq_false_iff.mpr
          fun h => hwhole (Binary64.exists_of_isIntegral h)
        cases x.truncate? with
        | none => rfl
        | some i =>
          dsimp only
          rw [hbroken]
          rfl
  | nil | bool | str | table | func | handle | null => exact number.elim

/-! ## Looking up -/

theorem run_find {v : Value} (number : v.IsNumber) (others : List Value)
    (w : World F) :
    (∃ n : ℤ, v.toRat? = some (n : ℚ)
        ∧ w.Asks (.findPlayer (.id (clamp n)))
          ((find (v :: others) : Action F (List Value)).run.run w))
      ∨ ((∀ n : ℤ, v.toRat? ≠ some (n : ℚ))
        ∧ (find (v :: others) : Action F (List Value)).run.run w
          = (.error (.raised (.complaint (.playerKey "number"))), w)) := by
  rw [find, Argument.nth, List.getD_cons_zero, run_bind]
  obtain ⟨n, hn, hkey⟩ | ⟨hnone, hkey⟩ := run_key number w
  · refine .inl ⟨n, hn, ?_⟩
    rw [hkey]
    refine asks_serve (.findPlayer (.id (clamp n))) (fun found => ?_) w
    cases found with
    | none => exact fun _ => rfl
    | some record =>
      exact Preserves.bind (fun _ _ _ h h' => h'.trans h)
        (newObject_shared _ _) fun _ _ => rfl
  · refine .inr ⟨hnone, ?_⟩
    rw [hkey]

/-- What is asked for a whole number. -/
theorem asks_whole {v : Value} (number : v.IsNumber) {n : ℤ}
    (hn : v.toRat? = some (n : ℚ)) (others : List Value) (w : World F) :
    w.Asks (.findPlayer (.id (clamp n)))
      ((find (v :: others) : Action F (List Value)).run.run w) := by
  obtain ⟨m, hm, hasks⟩ | ⟨hnone, -⟩ := run_find number others w
  · obtain rfl : n = m :=
      Int.cast_injective (Option.some.inj (hn.symm.trans hm))
    exact hasks
  · exact absurd hn (hnone n)

/-- A number that asks for a player is whole, and it is the one that stands
for the player. -/
theorem key_of_asks {v : Value} (number : v.IsNumber) {others : List Value}
    {w : World F} {key : PlayerKey} (offers : w.Offers .player)
    (asks : w.Asks (.findPlayer key)
      ((find (v :: others) : Action F (List Value)).run.run w)) :
    ∃ n : ℤ, v.toRat? = some (n : ℚ) ∧ key = .id (clamp n) := by
  obtain ⟨n, hn, hasks⟩ | ⟨-, hraises⟩ := run_find number others w
  · exact ⟨n, hn, ServiceCall.findPlayer.inj
      (asks.unique hasks offers offers)⟩
  · obtain ⟨failed, hshared, -⟩ := asks.asked offers
    rw [hraises] at hshared
    have hlength := congrArg (fun s => s.history.length) hshared
    simp at hlength

/-- **Which player a number looks up.** An integer or a double is looked up
exactly if it is a whole number. Such a number of 64 bits with a sign asks the
player store for just this number, once, and for nothing else; a double beyond
them asks for the number at the end. Any other double raises an error, and
changes nothing. So two numbers ask for one player only if they are equal, or
both lie at one end of the numbers of 64 bits or beyond it. -/
theorem find_asks {v : Value} (number : v.IsNumber) (others : List Value)
    (w : World F) :
    let outcome (v : Value) (others : List Value) (w : World F) :=
      (find (v :: others) : Action F (List Value)).run.run w
    (∀ n : ℤ, v.toRat? = some (n : ℚ) →
      (Word.minSigned ≤ n → n ≤ Word.maxSigned →
        w.Asks (.findPlayer (.id n)) (outcome v others w))
      ∧ (Word.maxSigned < n →
        w.Asks (.findPlayer (.id Word.maxSigned)) (outcome v others w))
      ∧ (n < Word.minSigned →
        w.Asks (.findPlayer (.id Word.minSigned)) (outcome v others w)))
    ∧ ((∀ n : ℤ, v.toRat? ≠ some (n : ℚ)) →
      outcome v others w
        = (.error (.raised (.complaint (.playerKey "number"))), w))
    ∧ ∀ (v' : Value) (others' : List Value) (w' : World F) (key : PlayerKey),
      v'.IsNumber → w.Offers .player → w'.Offers .player →
      w.Asks (.findPlayer key) (outcome v others w) →
      w'.Asks (.findPlayer key) (outcome v' others' w') →
      v.toRat? = v'.toRat?
        ∨ (∀ u ∈ [v, v'], ∃ n : ℤ, u.toRat? = some (n : ℚ)
          ∧ Word.maxSigned ≤ n)
        ∨ ∀ u ∈ [v, v'], ∃ n : ℤ, u.toRat? = some (n : ℚ)
          ∧ n ≤ Word.minSigned := by
  intro outcome
  refine ⟨fun n hn => ?_, fun hnone => ?_, ?_⟩
  · have hasks := asks_whole number hn others w
    refine ⟨fun low high => ?_, fun beyond => ?_, fun below => ?_⟩
    · rwa [clamp_of_signed low high] at hasks
    · rwa [clamp_of_ge beyond.le] at hasks
    · rwa [clamp_of_le below.le] at hasks
  · obtain ⟨n, hn, -⟩ | ⟨-, hraises⟩ := run_find number others w
    · exact absurd hn (hnone n)
    · exact hraises
  · intro v' others' w' key number' offers offers' asks asks'
    obtain ⟨n, hn, hkey⟩ := key_of_asks number offers asks
    obtain ⟨m, hm, hkey'⟩ := key_of_asks number' offers' asks'
    obtain heq | ⟨hle, hle'⟩ | ⟨hle, hle'⟩ :=
      clamp_inj (PlayerKey.id.inj (hkey.symm.trans hkey'))
    · exact .inl (by rw [hn, hm, heq])
    · exact .inr (.inl (by simp [hn, hm, hle, hle']))
    · exact .inr (.inr (by simp [hn, hm, hle, hle']))

/-- A world in which every player is asked for in vain. -/
def deserted : World Empty :=
  ⟨Interpreter.fresh (some
    { services := CannedServices.services { players := some ⟨{}, []⟩ } }), {}⟩

/-- Seven, as a double, is asked for as seven, and a half is not asked for. -/
theorem find_asks_seven :
    let outcome (x : Binary64) :=
      (find [.float x] : Action Empty (List Value)).run.run deserted
    deserted.Asks (.findPlayer (.id 7)) (outcome ⟨0x401c000000000000⟩)
      ∧ outcome ⟨0x3fe0000000000000⟩
        = (.error (.raised (.complaint (.playerKey "number"))), deserted) := by
  intro outcome
  have hseven : (Value.float ⟨0x401c000000000000⟩).toRat?
      = some ((7 : ℤ) : ℚ) := by
    rw [Value.toRat?_float (m := 0x1c000000000000) (e := -50) (by decide)
      (by decide) (by decide)]
    norm_num
  have hhalf : ∀ n : ℤ,
      (Value.float ⟨0x3fe0000000000000⟩).toRat? ≠ some (n : ℚ) := by
    intro n h
    rw [Value.toRat?_float (m := 0x10000000000000) (e := -53) (by decide)
      (by decide) (by decide)] at h
    have htwice : (1 : ℚ) = 2 * n := by
      have hn := Option.some.inj h
      norm_num at hn
      linarith
    have hodd : (1 : ℤ) = 2 * n := by exact_mod_cast htwice
    omega
  exact ⟨((find_asks (v := .float ⟨0x401c000000000000⟩) trivial []
    deserted).1 7 hseven).1 (by decide) (by decide),
    (find_asks (v := .float ⟨0x3fe0000000000000⟩) trivial []
      deserted).2.1 hhalf⟩

/-- **Two numbers, one player.** The double two to the 63rd is not the largest
integer of 64 bits, and both ask for the player of that number. -/
theorem find_saturates :
    let x : Binary64 := ⟨0x43e0000000000000⟩
    let outcome (v : Value) :=
      (find [v] : Action Empty (List Value)).run.run deserted
    (Value.float x).toRat? = some 9223372036854775808
      ∧ (Value.int Int64.maxValue).toRat? = some 9223372036854775807
      ∧ deserted.Offers .player
      ∧ deserted.Asks (.findPlayer (.id 9223372036854775807))
        (outcome (.float x))
      ∧ deserted.Asks (.findPlayer (.id 9223372036854775807))
        (outcome (.int Int64.maxValue)) := by
  intro x outcome
  have hx : (Value.float x).toRat? = some ((9223372036854775808 : ℤ) : ℚ) := by
    rw [Value.toRat?_float (m := 0x10000000000000) (e := 11) (by decide)
      (by decide) (by decide)]
    norm_num
  have hmax : (Value.int Int64.maxValue).toRat?
      = some ((9223372036854775807 : ℤ) : ℚ) := by
    rw [Value.toRat?, show Int64.maxValue.toInt = 9223372036854775807 by decide]
  refine ⟨by simpa using hx, by simpa using hmax, ⟨_, rfl, rfl⟩, ?_, ?_⟩
  · exact asks_whole (v := .float x) trivial hx [] deserted
  · exact asks_whole (v := .int Int64.maxValue) trivial hmax [] deserted

end PlayerFunction
end ScriptHost
