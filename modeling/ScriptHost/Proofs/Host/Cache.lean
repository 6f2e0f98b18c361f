/-
ScriptHost.Proofs.Host.Cache — a cache after all that was done to it.

A history lists what was done to a cache, and at what times
(`Cache.Access`). It tells which entry stands under a key (`Stored`): the
one that was written last, unless it was deleted since, or purged when it
had expired. For those that read, an expired entry is no different from
none, whatever was purged and when (`get?_replay`). For those that delete it
is: an expired entry is found until it is purged (`delete_expired`), and
that is the only difference that a purge makes (`replay_unpurged`).
-/
import ScriptHost.Host.Cache
import ScriptHost.Proofs.Data.KeyMap
import ScriptHost.Proofs.Data.Since

namespace ScriptHost

/-- What has not expired had not expired before. -/
theorem CacheEntry.isExpired_of_le {e : CacheEntry} {now earlier : Nat}
    (le : earlier ≤ now) (h : e.isExpired now = false) :
    e.isExpired earlier = false := by
  unfold isExpired at h ⊢
  split
  · rename_i time hexpiry
    rw [hexpiry] at h
    simp only [decide_eq_false_iff_not, Nat.not_le] at h ⊢
    exact Nat.lt_of_le_of_lt le h
  · rfl

namespace Cache

/-! ## Histories -/

/-- What is done to a cache. -/
inductive Deed where
  /-- Writes a value, with the time at which it expires, if it does. -/
  | set (key : String) (value : Json) (expiry : Option Nat)
  | get (key : String)
  | delete (key : String)
  | purge

def Deed.isPurge : Deed → Bool
  | purge => true
  | _ => false

/-- Something that is done at a time of the steady clock. -/
structure Access where
  now : Nat
  deed : Deed

/-- The cache after something was done to it. -/
def after (c : Cache) (a : Access) : Cache :=
  match a.deed with
  | .set key value expiry => c.set key value expiry
  | .get _ => c
  | .delete key => (c.delete key).2
  | .purge => (c.purge a.now).2

/-- A cache that was empty at first, after a history. -/
def replay (past : List Access) : Cache := past.foldl after {}

/-- The history without its purges. -/
def unpurged (past : List Access) : List Access :=
  past.filter (!·.deed.isPurge)

/-- Does it name the key to write it or to take it out? -/
def Deed.Touches (key : String) : Deed → Prop
  | set k _ _ => k = key
  | delete k => k = key
  | get _ | purge => False

/-- It leaves the entry that stands under the key. -/
def Access.Spares (key : String) (e : CacheEntry) (a : Access) : Prop :=
  ¬ a.deed.Touches key ∧ (a.deed = .purge → e.isExpired a.now = false)

/-- The entry was written under the key last, and not deleted since. -/
def Written (past : List Access) (key : String) (e : CacheEntry) : Prop :=
  Since (·.deed = .set key e.value e.expiry) (¬ ·.deed.Touches key) past

/-- And it was not purged since. -/
def Stored (past : List Access) (key : String) (e : CacheEntry) : Prop :=
  Since (·.deed = .set key e.value e.expiry) (·.Spares key e) past

/-! ## What stands in a cache -/

theorem get?_iff (c : Cache) (now : Nat) (key : String) (value : Json) :
    c.get? now key = some value
      ↔ ∃ e, c.entries.get? key = some e ∧ e.isExpired now = false
        ∧ e.value = value := by
  unfold get?
  cases c.entries.get? key with
  | none => simp
  | some e => cases h : e.isExpired now <;> simp [h]

theorem delete_iff (c : Cache) (key : String) :
    (c.delete key).1 = true ↔ ∃ e, c.entries.get? key = some e :=
  Option.isSome_iff_exists

/-- **What stands under a key was just written, or stood there and was
left.** -/
theorem entry_after (c : Cache) (a : Access) (key : String)
    (e : CacheEntry) :
    (c.after a).entries.get? key = some e
      ↔ a.deed = .set key e.value e.expiry
        ∨ (a.Spares key e ∧ c.entries.get? key = some e) := by
  obtain ⟨now, deed⟩ := a
  cases deed with
  | set k value expiry =>
    show (c.entries.insert k ⟨value, expiry⟩).get? key = some e ↔ _
    rw [KeyMap.get?_insert]
    by_cases hk : k = key
    · cases e
      simp [Access.Spares, Deed.Touches, hk]
    · simp [Access.Spares, Deed.Touches, hk]
  | get k => simp [after, Access.Spares, Deed.Touches]
  | delete k =>
    show (c.entries.erase k).get? key = some e ↔ _
    rw [KeyMap.get?_erase]
    by_cases hk : k = key <;> simp [Access.Spares, Deed.Touches, hk]
  | purge =>
    show (c.entries.filter fun e => !e.isExpired now).get? key = some e ↔ _
    rw [KeyMap.get?_filter, Option.filter_eq_some_iff]
    simp [Access.Spares, Deed.Touches, and_comm]

/-- **The history tells what stands in the cache.** -/
theorem entry_replay (past : List Access) (key : String) (e : CacheEntry) :
    (replay past).entries.get? key = some e ↔ Stored past key e := by
  induction past using List.reverseRecOn with
  | nil =>
    have hnone : (replay []).entries.get? key = none := rfl
    simp [hnone, Stored, not_since_nil]
  | append_singleton past a ih =>
    rw [replay, List.foldl_append, Stored, since_concat]
    exact (entry_after _ a key e).trans (or_congr_right (and_congr_right'
      ih))

/-! ## Expired entries -/

section Expired

variable {past past' : List Access} {now : Nat} {key : String}
  {e : CacheEntry}

theorem Stored.written (h : Stored past key e) : Written past key e :=
  Since.imp h (fun _ _ hset => hset) fun _ _ spares => spares.1

/-- An entry that has not expired was never purged. -/
theorem Written.stored (h : Written past key e)
    (passed : ∀ a ∈ past, a.now ≤ now) (fresh : e.isExpired now = false) :
    Stored past key e :=
  Since.imp h (fun _ _ hset => hset) fun a ha untouched =>
    ⟨untouched, fun _ => CacheEntry.isExpired_of_le (passed a ha) fresh⟩

/-- Whether an entry was written and not deleted has nothing to do with
purges. -/
theorem written_unpurged (past : List Access) (key : String)
    (e : CacheEntry) : Written (unpurged past) key e ↔ Written past key e :=
  since_filter (fun a hset => by simp [hset, Deed.isPurge])
    (fun a hpurge => by
      cases h : a.deed <;> simp [h, Deed.isPurge, Deed.Touches] at hpurge ⊢)
    past

theorem written_congr (same : unpurged past = unpurged past') :
    Written past key e ↔ Written past' key e := by
  rw [← written_unpurged past, same, written_unpurged]

/-- **Who reads finds what was written last, unless it was deleted or has
expired.** -/
theorem get?_replay (passed : ∀ a ∈ past, a.now ≤ now) (value : Json) :
    (replay past).get? now key = some value
      ↔ ∃ e, Written past key e ∧ e.isExpired now = false
        ∧ e.value = value := by
  simp only [get?_iff, entry_replay]
  refine exists_congr fun e => and_congr_left fun ⟨fresh, _⟩ => ?_
  exact ⟨Stored.written, fun h => h.stored passed fresh⟩

/-- Where nothing under the key has expired, to delete is to find what was
written last. -/
theorem delete_replay (passed : ∀ a ∈ past, a.now ≤ now)
    (fresh : ∀ e, Written past key e → e.isExpired now = false) :
    ((replay past).delete key).1 = true ↔ ∃ e, Written past key e := by
  simp only [delete_iff, entry_replay]
  exact exists_congr fun e =>
    ⟨Stored.written, fun h => h.stored passed (fresh e h)⟩

end Expired

/-- **An expired entry is as none for those who read, and for those who
delete once it is purged.** Take any two histories that differ in their
purges only, and any time after them. Reading finds the same in both: what
was written last under the key, unless it was deleted since or has expired.
Deleting finds what is stored, which an expired entry is until it is purged.
So where none under the key has expired, deleting finds what reading finds,
and the same in both. -/
theorem replay_unpurged (past past' : List Access) (now : Nat)
    (key : String) (passed : ∀ a ∈ past ++ past', a.now ≤ now)
    (same : unpurged past = unpurged past') :
    (∀ value, (replay past).get? now key = some value
        ↔ ∃ e, Written past key e ∧ e.isExpired now = false
          ∧ e.value = value)
      ∧ (replay past').get? now key = (replay past).get? now key
      ∧ (((replay past).delete key).1 = true ↔ ∃ e, Stored past key e)
      ∧ ((∀ e, Written past key e → e.isExpired now = false) →
        ((replay past).delete key).1 = ((replay past).get? now key).isSome
          ∧ ((replay past').delete key).1
            = ((replay past).delete key).1) := by
  obtain ⟨hpast, hpast'⟩ := List.forall_mem_append.mp passed
  refine ⟨fun _ => get?_replay hpast _, ?_, ?_, fun fresh => ⟨?_, ?_⟩⟩
  · refine Option.ext fun value => ?_
    simp only [get?_replay hpast, get?_replay hpast', written_congr same]
  · simp only [delete_iff, entry_replay]
  · rw [Bool.eq_iff_iff, delete_replay hpast fresh,
      Option.isSome_iff_exists]
    constructor
    · rintro ⟨e, he⟩
      exact ⟨e.value, (get?_replay hpast _).mpr ⟨e, he, fresh e he, rfl⟩⟩
    · rintro ⟨value, hvalue⟩
      obtain ⟨e, he, -⟩ := (get?_replay hpast _).mp hvalue
      exact ⟨e, he⟩
  · have fresh' : ∀ e, Written past' key e → e.isExpired now = false :=
      fun e he => fresh e ((written_congr same).mpr he)
    rw [Bool.eq_iff_iff, delete_replay hpast' fresh',
      delete_replay hpast fresh]
    exact exists_congr fun e => (written_congr same).symm

/-- Two entries, one of which expires while it is not purged. -/
def lapsing : List Access :=
  [⟨4, .set "short" (.int 1) (some 5)⟩, ⟨4, .set "long" (.int 2) (some 9)⟩,
    ⟨6, .get "short"⟩]

/-- The same, with purges in between. -/
def purging : List Access :=
  [⟨4, .purge⟩, ⟨4, .set "short" (.int 1) (some 5)⟩,
    ⟨4, .set "long" (.int 2) (some 9)⟩, ⟨5, .purge⟩, ⟨6, .get "short"⟩]

/-- A purge makes no difference for the entry that has not expired. -/
theorem replay_lapsing :
    (∀ a ∈ lapsing ++ purging, a.now ≤ 7)
      ∧ unpurged lapsing = unpurged purging
      ∧ (∀ e, Written lapsing "long" e → e.isExpired 7 = false)
      ∧ (replay purging).get? 7 "long" = some (.int 2)
      ∧ ((replay purging).delete "long").1 = true := by
  have passed : ∀ a ∈ lapsing ++ purging, a.now ≤ 7 := by
    simp [lapsing, purging]
  have fresh : ∀ e, Written lapsing "long" e → e.isExpired 7 = false := by
    rintro ⟨value, expiry⟩ h
    obtain ⟨-, rfl⟩ : .int 2 = value ∧ some 9 = expiry := by
      simpa [Written, lapsing, since_cons, not_since_nil, Deed.Touches]
        using h
    rfl
  obtain ⟨-, hget, -, hdelete⟩ :=
    replay_unpurged lapsing purging 7 "long" passed rfl
  exact ⟨passed, rfl, fresh, hget.trans rfl, (hdelete fresh).2.trans rfl⟩

/-- **An expired entry is not as none for those who delete.** Nobody can
read it any more, but to delete it is to find it, unless a purge comes
first. -/
theorem delete_expired :
    (replay lapsing).get? 7 "short" = none
      ∧ ((replay lapsing).delete "short").1 = true
      ∧ unpurged purging = unpurged lapsing
      ∧ ((replay purging).delete "short").1 = false :=
  ⟨rfl, rfl, rfl, rfl⟩

end Cache

end ScriptHost
