/-
ScriptHost.Host.Cache — values shared for a while.

An entry may have a time at which it expires. From then on it is not found
any more, though it stays in the map until it is deleted, written again or
purged.
-/
import ScriptHost.Json.Basic
import ScriptHost.Time.Clock

namespace ScriptHost

/-- A cached value. -/
structure CacheEntry where
  value : Json
  /-- The steady time at which it expires. -/
  expiry : Option Nat := none

/-- Has the entry expired? -/
def CacheEntry.isExpired (e : CacheEntry) (now : Nat) : Bool :=
  match e.expiry with
  | some t => t ≤ now
  | none => false

/-- The cached values. -/
structure Cache where
  entries : KeyMap CacheEntry := ∅

namespace Cache

/-- The value under a key, unless it has expired. -/
def get? (c : Cache) (now : Nat) (key : String) : Option Json :=
  match c.entries.get? key with
  | some e => if e.isExpired now then none else some e.value
  | none => none

/-- Writes a value, with the time at which it expires. -/
def set (c : Cache) (key : String) (value : Json) (expiry : Option Nat) :
    Cache :=
  ⟨c.entries.insert key ⟨value, expiry⟩⟩

/-- Takes a key out, and says whether it was there. -/
def delete (c : Cache) (key : String) : Bool × Cache :=
  (c.entries.contains key, ⟨c.entries.erase key⟩)

/-- Takes all expired entries out, and says how many there were. -/
def purge (c : Cache) (now : Nat) : Nat × Cache :=
  let kept := c.entries.filter fun e => !e.isExpired now
  (c.entries.size - kept.size, ⟨kept⟩)

end Cache

end ScriptHost
