/-
ScriptHost.Proofs.Web.Session — a session as what its changes have left.

What a session holds under a key, be it a message or a value, is what the
last change has left there that touched it (`Left`). `flash_iff` and
`value_iff` say so of a session that was empty at first, and
`destroyed_iff` that nothing ever takes back the mark of a destroyed one.
-/
import Mathlib.Data.List.Induction
import ScriptHost.Proofs.Data.Since
import ScriptHost.Proofs.Web.Part

namespace ScriptHost

/-! ## What changes do to one thing -/

/-- What a change does to one thing. -/
inductive Touch (α : Type) where
  /-- The thing stays as it is. -/
  | spares
  /-- The thing is gone. -/
  | clears
  | writes (a : α)

/-- What is there after a change, given what was there before. -/
def Touch.after {α : Type} : Touch α → Option α → Option α
  | spares, old => old
  | clears, _ => none
  | writes a, _ => some a

namespace SessionChange

/-- What a change does to the message under a key. -/
def onFlash (key : String) : SessionChange → Touch String
  | takeFlash k => if k = key then .clears else .spares
  | setFlash k message => if k = key then .writes message else .spares
  | set _ _ => .spares
  | destroy => .clears

/-- What a change does to the value under a key. -/
def onValue (key : String) : SessionChange → Touch Json
  | takeFlash _ => .spares
  | setFlash _ _ => .spares
  | set k value =>
    if k = key then if value.isNull then .clears else .writes value
    else .spares
  | destroy => .clears

/-- Only leaving a message writes it. -/
theorem eq_setFlash {c : SessionChange} {key message : String}
    (h : c.onFlash key = .writes message) : c = .setFlash key message := by
  cases c with
  | setFlash k other =>
    rw [onFlash] at h
    split at h
    case isTrue hkey =>
      rw [hkey, Touch.writes.inj h]
    case isFalse => cases h
  | takeFlash k =>
    rw [onFlash] at h
    split at h <;> cases h
  | set | destroy => cases h

end SessionChange

section Left

variable {α : Type} {on : SessionChange → Touch α}
  {past : List SessionChange}

/-- The last change that touched a thing has written this. -/
def Left (on : SessionChange → Touch α) (past : List SessionChange) (a : α) :
    Prop :=
  ∃ before c after, past = before ++ c :: after ∧ on c = .writes a
    ∧ ∀ d ∈ after, on d = .spares

theorem not_left_nil (a : α) : ¬ Left on [] a := not_since_nil

/-- One more change. -/
theorem left_concat (c : SessionChange) (a : α) :
    Left on (past ++ [c]) a
      ↔ on c = .writes a ∨ (on c = .spares ∧ Left on past a) :=
  since_concat past c

/-- What is there although a change has cleared it was written since. -/
theorem left_since {before after : List SessionChange} {c : SessionChange}
    {a : α} (clears : on c = .clears)
    (left : Left on (before ++ c :: after) a) :
    ∃ d ∈ after, on d = .writes a := by
  obtain ⟨before', d, after', hsplit, hwrites, hspares⟩ := left
  have hne : c ≠ d := by
    rintro rfl
    rw [clears] at hwrites
    cases hwrites
  rcases List.append_eq_append_iff.mp hsplit with
    ⟨middle, -, hafter⟩ | ⟨middle, -, hafter⟩
  · cases middle with
    | nil => exact absurd (List.cons.inj hafter).1 hne
    | cons e middle =>
      obtain ⟨-, rfl⟩ := List.cons.inj hafter
      exact ⟨d, by simp, hwrites⟩
  · cases middle with
    | nil => exact absurd (List.cons.inj hafter).1.symm hne
    | cons e middle =>
      obtain ⟨-, rfl⟩ := List.cons.inj hafter
      have hspared := hspares c (by simp)
      rw [clears] at hspared
      cases hspared

end Left

/-! ## What a session holds -/

namespace Session

/-- The session after some changes. -/
def replay (start : Session) (changes : List SessionChange) : Session :=
  changes.foldl (fun s change => change.apply s) start

theorem replay_concat (start : Session) (past : List SessionChange)
    (c : SessionChange) :
    replay start (past ++ [c]) = c.apply (replay start past) := by
  rw [replay, List.foldl_append]
  rfl

theorem replay_append (start : Session) (past more : List SessionChange) :
    replay start (past ++ more) = replay (replay start past) more :=
  List.foldl_append

/-- What a session holds is what was left there, if every change does to it
what `on` says. -/
theorem replay_left {α : Type} {on : SessionChange → Touch α}
    (get : Session → Option α) (start : get {} = none)
    (step : ∀ c s, get (c.apply s) = (on c).after (get s))
    (past : List SessionChange) (a : α) :
    get (replay {} past) = some a ↔ Left on past a := by
  induction past using List.reverseRecOn with
  | nil =>
    have hnone : get (replay {} []) = none := start
    simp [hnone, not_left_nil]
  | append_singleton past c ih =>
    rw [replay_concat, step, left_concat, ← ih]
    cases on c <;> simp [Touch.after]

theorem flash_apply (key : String) (c : SessionChange) (s : Session) :
    (c.apply s).flash.get? key = (c.onFlash key).after (s.flash.get? key) := by
  cases c with
  | takeFlash k =>
    show (s.flash.erase k).get? key = _
    rw [KeyMap.get?_erase, SessionChange.onFlash]
    split <;> rfl
  | setFlash k message =>
    show (s.flash.insert k message).get? key = _
    rw [KeyMap.get?_insert, SessionChange.onFlash]
    split <;> rfl
  | set k value =>
    show (s.set k value).flash.get? key = _
    rw [set]
    split <;> rfl
  | destroy => rfl

theorem value_apply (key : String) (c : SessionChange) (s : Session) :
    (c.apply s).get? key = (c.onValue key).after (s.get? key) := by
  cases c with
  | takeFlash | setFlash | destroy => rfl
  | set k value =>
    show (s.set k value).values.get? key = _
    rw [set, SessionChange.onValue]
    cases value.isNull with
    | true =>
      show (s.values.erase k).get? key = _
      rw [KeyMap.get?_erase]
      split <;> rfl
    | false =>
      show (s.values.insert k value).get? key = _
      rw [KeyMap.get?_insert]
      split <;> rfl

variable (past : List SessionChange)

/-- **A message is there if it was left there last.** -/
theorem flash_iff (key message : String) :
    (replay {} past).flash.get? key = some message
      ↔ Left (SessionChange.onFlash key) past message :=
  replay_left (·.flash.get? key) rfl (flash_apply key) past message

/-- **So is a value.** -/
theorem value_iff (key : String) (value : Json) :
    (replay {} past).get? key = some value
      ↔ Left (SessionChange.onValue key) past value :=
  replay_left (·.get? key) rfl (value_apply key) past value

/-- **A session is marked once it was destroyed.** -/
theorem destroyed_iff :
    (replay {} past).destroyed = true ↔ .destroy ∈ past := by
  induction past using List.reverseRecOn with
  | nil => simp [replay]
  | append_singleton past c ih =>
    rw [replay_concat, List.mem_append, ← ih, List.mem_singleton]
    cases c with
    | takeFlash | setFlash => simp [SessionChange.apply, takeFlash, setFlash]
    | set k value =>
      have hset : ((replay {} past).set k value).destroyed
          = (replay {} past).destroyed := by
        unfold set
        split <;> rfl
      simp [SessionChange.apply, hset]
    | destroy => simp [SessionChange.apply, destroy]

/-! ## Who is logged in -/

theorem flag_iff (key : String) :
    (replay {} past).flag key = true
      ↔ Left (SessionChange.onValue key) past (.bool true) := by
  rw [← value_iff, flag, decide_eq_true_eq]
  cases (replay {} past).get? key with
  | none => simp
  | some j => cases j <;> simp [Json.bool?]

theorem isLogged_iff :
    (replay {} past).isLogged = true
      ↔ Left (SessionChange.onValue loggedKey) past (.bool true) :=
  flag_iff past loggedKey

theorem isAdmin_iff :
    (replay {} past).isAdmin = true
      ↔ Left (SessionChange.onValue loggedKey) past (.bool true)
        ∧ Left (SessionChange.onValue adminKey) past (.bool true) := by
  rw [isAdmin, Bool.and_eq_true, isLogged_iff, flag_iff]

theorem account?_iff (account : Json) :
    (replay {} past).account? = some account
      ↔ Left (SessionChange.onValue loggedKey) past (.bool true)
        ∧ Left (SessionChange.onValue accountKey) past account := by
  rw [← isLogged_iff, ← value_iff, account?]
  cases (replay {} past).isLogged <;> simp

end Session

end ScriptHost
