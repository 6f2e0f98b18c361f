/-
ScriptHost.Engine.Pool — instances that wait to be used again.

The instance that came back last goes out first, and a new one is made only
when none is there. An instance that comes back is kept unless it is worn
out or there are enough. The pool counts the instances that were made and
those that were not kept.

Identities and counts are numbers without end here. A host holds them in 64
bits, and would have to make 2 ^ 64 instances before one of them begins
again.
-/
import ScriptHost.Config.Settings
import ScriptHost.Engine.Instance

namespace ScriptHost

/-- What a pool counts. -/
structure PoolStats where
  created : Nat := 0
  idle : Nat := 0
  dropped : Nat := 0
  deriving DecidableEq, Repr

/-- Instances that wait to be used again. -/
structure Pool (S : Type) where
  policy : PoolPolicy
  /-- Those that wait, the one that came back last first. -/
  idle : List (Instance S) := []
  created : Nat := 0
  dropped : Nat := 0
  nextId : Nat := 1

namespace Pool

variable {S E : Type}

/-- What the pool counts. -/
def stats (p : Pool S) : PoolStats :=
  { created := p.created, idle := p.idle.length, dropped := p.dropped }

/-- Has the instance been used often enough? -/
def isWorn (policy : PoolPolicy) (inst : Instance S) : Bool :=
  match policy.maxUses with
  | some most => most ≤ inst.uses
  | none => false

/-- Are there enough that wait? -/
def isFull (p : Pool S) : Bool :=
  match p.policy.maxIdle with
  | some most => most ≤ p.idle.length
  | none => false

/-- Takes an instance back. -/
def put (p : Pool S) (inst : Instance S) : Pool S :=
  if isWorn p.policy inst || p.isFull then
    { p with dropped := p.dropped + 1 }
  else { p with idle := inst :: p.idle }

/-- Takes an instance out, if one waits. -/
def pop? (p : Pool S) : Option (Instance S × Pool S) :=
  match p.idle with
  | inst :: rest => some (inst, { p with idle := rest })
  | [] => none

/-- Makes an instance of a state. -/
def create (p : Pool S) (state : S) : Instance S × Pool S :=
  ({ id := p.nextId, state := state },
    { p with created := p.created + 1, nextId := p.nextId + 1 })

/-- Hands an instance out: one that waits, or a new one if that can be
configured. -/
def get (p : Pool S) (configure : Except E S) :
    Except E (Instance S) × Pool S :=
  match p.pop? with
  | some (inst, p) => (.ok inst, p)
  | none =>
    match configure with
    | .ok state =>
      let (inst, p) := p.create state
      (.ok inst, p)
    | .error e => (.error e, p)

/-- Makes instances ahead of time, none of them waiting yet. -/
def prepare (configure : Except E S) (p : Pool S) :
    Nat → Except E (List (Instance S)) × Pool S
  | 0 => (.ok [], p)
  | n + 1 =>
    match configure with
    | .error e => (.error e, p)
    | .ok state =>
      let (inst, p) := p.create state
      let (others, p) := prepare configure p n
      (others.map (inst :: ·), p)

/-- Makes instances ahead of time. -/
def warm (p : Pool S) (configure : Except E S) (count : Nat) :
    Except E Unit × Pool S :=
  match prepare configure p count with
  | (.ok fresh, p) => (.ok (), fresh.foldl put p)
  | (.error e, p) => (.error e, p)

end Pool

end ScriptHost
