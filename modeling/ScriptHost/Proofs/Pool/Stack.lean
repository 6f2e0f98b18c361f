/-
ScriptHost.Proofs.Pool.Stack — a pool hands out what came back last.

A `Note` says what a step of a crowd did with an instance, and the notes of
all steps so far are the history of the pool. What waits is read off the
history alone: whatever was kept and not taken since (`Waits`), the latest
first (`waiting`). The invariant `Stacked` holds the pool against it, and
every instance against its own life (`lifeline`): it was configured once,
and nothing but its uses has changed it since.

`run_latest` is the main statement: a pool is a stack of what it keeps,
bounded by its policy.
-/
import ScriptHost.Proofs.Data.Since
import ScriptHost.Proofs.Pool.Limits

namespace ScriptHost

/-! ## Histories of a pool -/

/-- What a step did with an instance. -/
inductive Note (S : Type) where
  /-- A new one was configured, for a caller or ahead of time. -/
  | configured (inst : Instance S)
  /-- One that waited was handed out. -/
  | reused (inst : Instance S)
  /-- One came back, and waits. -/
  | kept (inst : Instance S)
  /-- One came back, and is gone. -/
  | dropped (inst : Instance S)
  /-- One was used, and is in another state. -/
  | used (id : Nat) (state : S)

namespace Note

variable {S : Type}

/-- The identity of the instance. -/
def id : Note S → Nat
  | configured inst | reused inst | kept inst | dropped inst => inst.id
  | used id _ => id

/-- The identity of a new instance. -/
def made? : Note S → Option Nat
  | configured inst => some inst.id
  | _ => none

/-- Does it take the instance out of the pool? -/
def takes (id : Nat) : Note S → Bool
  | reused inst => inst.id = id
  | _ => false

/-- What waits after it. -/
def settle (row : List (Instance S)) : Note S → List (Instance S)
  | kept inst => inst :: row
  | reused inst => row.filter (·.id ≠ inst.id)
  | _ => row

/-- What it makes of an instance. -/
def live (id : Nat) (inst? : Option (Instance S)) :
    Note S → Option (Instance S)
  | configured inst => if inst.id = id then some inst else inst?
  | used other state =>
    if other = id then inst?.map fun inst =>
      { inst with uses := inst.uses + 1, state := state }
    else inst?
  | _ => inst?

end Note

section History

variable {S : Type}

/-- The instance was kept, and nobody took it since. -/
def Waits (past : List (Note S)) (inst : Instance S) : Prop :=
  Since (· = .kept inst) (·.takes inst.id = false) past

/-- It was kept, nobody took it since, and nothing that was kept later still
waits. -/
def Latest (past : List (Note S)) (inst : Instance S) : Prop :=
  ∃ before after, past = before ++ .kept inst :: after
    ∧ (∀ note ∈ after, note.takes inst.id = false)
    ∧ ∀ other, ¬ Waits after other

/-- All that waits, the latest first. -/
def waiting (past : List (Note S)) : List (Instance S) :=
  past.foldl Note.settle []

/-- An instance as it was configured and then used. -/
def lifeline (past : List (Note S)) (id : Nat) : Option (Instance S) :=
  past.foldl (Note.live id) none

theorem Note.settle_eq (row : List (Instance S)) (note : Note S) :
    note.settle row
      = note.settle [] ++ row.filter fun inst => !note.takes inst.id := by
  cases note with
  | reused inst => simp [settle, takes, eq_comm]
  | configured | kept | dropped | used => simp [settle, takes]

/-- What waited before is still there unless somebody took it. -/
theorem foldl_settle (past : List (Note S)) :
    ∀ row : List (Instance S), past.foldl Note.settle row
      = waiting past
        ++ row.filter fun inst => past.all (!·.takes inst.id) := by
  induction past with
  | nil => intro row; simp [waiting]
  | cons note rest ih =>
    intro row
    have hcons : waiting (note :: rest) = waiting rest
        ++ (note.settle []).filter fun inst =>
          rest.all (!·.takes inst.id) := ih (note.settle [])
    rw [List.foldl_cons, ih, note.settle_eq row, List.filter_append,
      List.filter_filter, hcons, List.append_assoc]
    simp [Bool.and_comm]

theorem waiting_append (before after : List (Note S)) :
    waiting (before ++ after) = waiting after
      ++ (waiting before).filter fun inst =>
        after.all (!·.takes inst.id) := by
  rw [waiting, List.foldl_append, foldl_settle]
  rfl

theorem waiting_cons (note : Note S) (rest : List (Note S)) :
    waiting (note :: rest) = waiting rest
      ++ (note.settle []).filter fun inst =>
        rest.all (!·.takes inst.id) :=
  waiting_append [note] rest

theorem waiting_concat (past : List (Note S)) (note : Note S) :
    waiting (past ++ [note]) = note.settle (waiting past) := by
  rw [waiting, List.foldl_append]
  rfl

theorem Note.mem_settle_nil {note : Note S} {inst : Instance S} :
    inst ∈ note.settle [] ↔ note = .kept inst := by
  cases note <;> simp [settle, eq_comm]

/-- **The row of what waits lists just that.** -/
theorem mem_waiting {past : List (Note S)} {inst : Instance S} :
    inst ∈ waiting past ↔ Waits past inst := by
  induction past with
  | nil => simp [waiting, Waits, not_since_nil]
  | cons note rest ih =>
    have hcons : Waits (note :: rest) inst ↔ _ := since_cons note rest
    rw [hcons, waiting_cons, List.mem_append, ih, or_comm, List.mem_filter,
      Note.mem_settle_nil]
    simp [Waits]

/-- **Its head is the latest.** -/
theorem head_waiting {past : List (Note S)} {inst : Instance S} :
    (waiting past).head? = some inst ↔ Latest past inst := by
  constructor
  · induction past with
    | nil => simp [waiting]
    | cons note rest ih =>
      rw [waiting_cons]
      cases hrest : waiting rest with
      | nil =>
        intro hhead
        have hmem := List.mem_of_head? hhead
        rw [List.nil_append, List.mem_filter, Note.mem_settle_nil] at hmem
        obtain ⟨rfl, huntaken⟩ := hmem
        refine ⟨[], rest, rfl, by simpa using huntaken, fun other h => ?_⟩
        rw [← mem_waiting, hrest] at h
        cases h
      | cons first others =>
        intro hhead
        obtain ⟨before, after, rfl, hafter⟩ :=
          ih (by rw [hrest]; exact hhead)
        exact ⟨note :: before, after, rfl, hafter⟩
  · rintro ⟨before, after, rfl, huntaken, hnone⟩
    have hempty : waiting after = [] :=
      List.eq_nil_iff_forall_not_mem.mpr fun other h =>
        hnone other (mem_waiting.mp h)
    have huntaken : after.all (!·.takes inst.id) = true := by
      simpa using huntaken
    rw [waiting_append, waiting_cons, hempty]
    simp [Note.settle, huntaken]

/-- Where nothing is the latest, nothing waits. -/
theorem waiting_eq_nil {past : List (Note S)} :
    waiting past = [] ↔ ∀ inst, ¬ Latest past inst := by
  simp only [← head_waiting, List.head?_eq_some_iff]
  cases waiting past <;> simp

theorem lifeline_concat (past : List (Note S)) (note : Note S) (id : Nat) :
    lifeline (past ++ [note]) id = note.live id (lifeline past id) := by
  rw [lifeline, List.foldl_append]
  rfl

end History

namespace Pool

variable {S : Type}

/-- Does the pool keep an instance that comes back? -/
def keeps (p : Pool S) (inst : Instance S) : Bool :=
  !(isWorn p.policy inst || p.isFull)

theorem put_keeps (p : Pool S) (inst : Instance S) :
    (p.put inst).idle = if p.keeps inst then inst :: p.idle else p.idle := by
  unfold put keeps
  cases isWorn p.policy inst || p.isFull <;> rfl

/-- **A pool keeps what has a use left if there is room.** -/
theorem keeps_iff (p : Pool S) (inst : Instance S) :
    p.keeps inst = true
      ↔ (∀ most, p.policy.maxUses = some most → inst.uses < most)
        ∧ ∀ most, p.policy.maxIdle = some most → p.idle.length < most := by
  unfold keeps isWorn isFull
  cases p.policy.maxUses <;> cases p.policy.maxIdle <;> simp

end Pool

namespace Crowd

variable {C S : Type}

/-! ## Notes -/

/-- All instances, idle ones first. -/
def stock (k : Crowd C S) : List (Instance S) :=
  k.pool.idle ++ k.held.map (·.inst)

theorem ids_stock (k : Crowd C S) : k.ids = k.stock.map Instance.id := by
  simp [ids, stock]

theorem mem_stock_held {k : Crowd C S} {p : Possession C S}
    (h : p ∈ k.held) : p.inst ∈ k.stock :=
  List.mem_append_right _ (List.mem_map.mpr ⟨p, h, rfl⟩)

theorem stock_subset {k : Crowd C S} {row : List (Instance S)}
    (idle : k.pool.idle ⊆ row) (held : ∀ p ∈ k.held, p.inst ∈ row) :
    k.stock ⊆ row := by
  intro inst hinst
  rcases List.mem_append.mp hinst with hinst | hinst
  · exact idle hinst
  · obtain ⟨p, hp, rfl⟩ := List.mem_map.mp hinst
    exact held p hp

/-- What a step does with the instances, and the note that it leaves. -/
inductive Noted (k k' : Crowd C S) : Option (Note S) → Prop where
  /-- Nothing but that some may be gone. -/
  | quiet (pool : k'.pool = k.pool) (stock : k'.stock ⊆ k.stock) :
      Noted k k' none
  | configured (state : S) (pool : k'.pool = (k.pool.create state).2)
      (stock : k'.stock ⊆ (k.pool.create state).1 :: k.stock) :
      Noted k k' (some (.configured (k.pool.create state).1))
  | reused (inst : Instance S) (rest : List (Instance S))
      (idle : k.pool.idle = inst :: rest)
      (pool : k'.pool = { k.pool with idle := rest })
      (stock : k'.stock ⊆ k.stock) : Noted k k' (some (.reused inst))
  | returned (inst : Instance S) (was : inst ∈ k.stock)
      (pool : k'.pool = k.pool.put inst) (stock : k'.stock ⊆ k.stock) :
      Noted k k' (some (if k.pool.keeps inst then .kept inst
        else .dropped inst))
  | used (inst : Instance S) (state : S) (others : List (Instance S))
      (was : k.stock.Perm (inst :: others)) (pool : k'.pool = k.pool)
      (stock : k'.stock.Perm ({ inst with
        uses := inst.uses + 1, state := state } :: others)) :
      Noted k k' (some (.used inst.id state))

/-- Nothing is new in anybody's hands. -/
theorem noted_quiet {k k' : Crowd C S} (pool : k'.pool = k.pool)
    (held : ∀ q ∈ k'.held, ∃ p ∈ k.held, q.inst = p.inst) :
    Noted k k' none := by
  refine .quiet pool (stock_subset ?_ fun q hq => ?_)
  · rw [pool]
    exact List.subset_append_left _ _
  · obtain ⟨p, hp, hinst⟩ := held q hq
    exact hinst ▸ mem_stock_held hp

theorem noted_refl (k : Crowd C S) : Noted k k none :=
  .quiet rfl (List.Subset.refl _)

/-- A new instance is in somebody's hands. -/
theorem noted_configured {k k' : Crowd C S} {p : Possession C S} {state : S}
    (pool : k'.pool = (k.pool.create state).2)
    (new : p.inst = (k.pool.create state).1)
    (held : k'.held = k.held ++ [p]) :
    Noted k k' (some (.configured (k.pool.create state).1)) := by
  refine .configured state pool (stock_subset ?_ fun q hq => ?_)
  · rw [pool]
    exact fun inst hinst =>
      List.mem_cons_of_mem _ (List.mem_append_left _ hinst)
  · rw [held, List.mem_append, List.mem_singleton] at hq
    rcases hq with hq | rfl
    · exact List.mem_cons_of_mem _ (mem_stock_held hq)
    · exact new ▸ List.mem_cons_self

/-! ## The pool and its history -/

/-- The pool holds what waits and no more, and every instance is what its
life has made of it. -/
structure Stacked (policy : PoolPolicy) (past : List (Note S))
    (k : Crowd C S) : Prop where
  exclusive : Exclusive k
  same : k.pool.policy = policy
  row : k.pool.idle = waiting past
  older : ∀ note ∈ past, note.id < k.pool.nextId
  once : (past.filterMap Note.made?).Nodup
  new : ∀ inst, .configured inst ∈ past → inst.uses = 0
  live : ∀ inst ∈ k.stock, lifeline past inst.id = some inst

theorem stacked_start (policy : PoolPolicy) :
    Stacked policy [] (start policy : Crowd C S) where
  exclusive := exclusive_start policy
  same := rfl
  row := rfl
  older := nofun
  once := .nil
  new := nofun
  live := nofun

section Histories

variable {policy : PoolPolicy} {past : List (Note S)} {k k' : Crowd C S}

theorem Stacked.below (h : Stacked policy past k) {inst : Instance S}
    (hinst : inst ∈ k.stock) : inst.id < k.pool.nextId :=
  h.exclusive.below _ (ids_stock k ▸ List.mem_map.mpr ⟨inst, hinst, rfl⟩)

/-- What one more note has to agree with. -/
theorem Stacked.concat (h : Stacked policy past k) {note : Note S}
    (exclusive : Exclusive k') (same : k'.pool.policy = k.pool.policy)
    (row : k'.pool.idle = note.settle k.pool.idle)
    (next : k.pool.nextId ≤ k'.pool.nextId)
    (older : note.id < k'.pool.nextId)
    (new : ∀ inst, note = .configured inst →
      k.pool.nextId ≤ inst.id ∧ inst.uses = 0)
    (live : ∀ inst ∈ k'.stock,
      note.live inst.id (lifeline past inst.id) = some inst) :
    Stacked policy (past ++ [note]) k' where
  exclusive := exclusive
  same := same.trans h.same
  row := by rw [row, h.row, waiting_concat]
  older other hother := by
    rcases List.mem_append.mp hother with hother | hother
    · exact Nat.lt_of_lt_of_le (h.older other hother) next
    · rwa [List.mem_singleton.mp hother]
  once := by
    rw [List.filterMap_append, List.nodup_append]
    refine ⟨h.once, ?_, fun a ha b hb hab => ?_⟩
    · cases hmade : note.made? <;> simp [hmade]
    · obtain ⟨earlier, hearlier, hmade⟩ := List.mem_filterMap.mp ha
      have hid : earlier.id = a := by
        cases earlier with
        | configured inst => exact Option.some.inj hmade
        | reused | kept | dropped | used => cases hmade
      have hb : k.pool.nextId ≤ b := by
        cases note with
        | configured inst =>
          rw [List.mem_singleton.mp hb]
          exact (new inst rfl).1
        | reused | kept | dropped | used => cases hb
      have ha : a < k.pool.nextId := hid ▸ h.older earlier hearlier
      omega
  new inst hinst := by
    rcases List.mem_append.mp hinst with hinst | hinst
    · exact h.new inst hinst
    · exact (new inst (List.mem_singleton.mp hinst).symm).2
  live inst hinst := by
    rw [lifeline_concat]
    exact live inst hinst

theorem stacked_noted (h : Stacked policy past k) (exclusive : Exclusive k')
    {note : Option (Note S)} (noted : Noted k k' note) :
    Stacked policy (past ++ note.toList) k' := by
  cases noted with
  | quiet pool stock =>
    rw [Option.toList_none, List.append_nil]
    exact ⟨exclusive, pool ▸ h.same, pool ▸ h.row, pool ▸ h.older, h.once,
      h.new, fun inst hinst => h.live inst (stock hinst)⟩
  | configured state pool stock =>
    have next : k'.pool.nextId = k.pool.nextId + 1 := by rw [pool]; rfl
    refine h.concat exclusive (by rw [pool]; rfl) (by rw [pool]; rfl)
      (by omega) (next ▸ Nat.lt_succ_self _) (fun inst hinst => ?_)
      fun inst hinst => ?_
    · obtain rfl := Note.configured.inj hinst
      exact ⟨Nat.le_refl _, rfl⟩
    · rcases List.mem_cons.mp (stock hinst) with rfl | hinst
      · exact if_pos rfl
      · have hne : k.pool.nextId ≠ inst.id := Nat.ne_of_gt (h.below hinst)
        exact (if_neg hne).trans (h.live inst hinst)
  | reused inst rest idle pool stock =>
    have hinst : inst ∈ k.stock :=
      List.mem_append_left _ (idle ▸ List.mem_cons_self)
    have next : k'.pool.nextId = k.pool.nextId := by rw [pool]
    refine h.concat exclusive (by rw [pool]) ?_ (Nat.le_of_eq next.symm)
      (next ▸ h.below hinst) (by simp)
      fun other hother => h.live other (stock hother)
    -- Nothing else that waits has the identity of what is taken.
    have hnodup := h.exclusive.nodup
    rw [ids, idle, List.map_cons, List.cons_append, List.nodup_cons,
      List.mem_append, not_or] at hnodup
    rw [pool, idle, Note.settle, List.filter_cons_of_neg (by simp)]
    refine (List.filter_eq_self.mpr fun other hother => ?_).symm
    have hne : other.id ≠ inst.id := fun heq =>
      hnodup.1.1 (heq ▸ List.mem_map.mpr ⟨other, hother, rfl⟩)
    simpa using hne
  | returned inst was pool stock =>
    have next : k'.pool.nextId = k.pool.nextId := by
      rw [pool, (put_idle _ _).2]
    have same : k'.pool.policy = k.pool.policy := by
      rw [pool]
      unfold Pool.put
      split <;> rfl
    have row := Pool.put_keeps k.pool inst
    rw [← pool] at row
    have live : ∀ other ∈ k'.stock,
        lifeline past other.id = some other :=
      fun other hother => h.live other (stock hother)
    cases hkeeps : k.pool.keeps inst with
    | true =>
      rw [hkeeps] at row
      exact h.concat exclusive same row (Nat.le_of_eq next.symm)
        (next ▸ h.below was) (by simp) live
    | false =>
      rw [hkeeps] at row
      exact h.concat exclusive same row (Nat.le_of_eq next.symm)
        (next ▸ h.below was) (by simp) live
  | used inst state others was pool stock =>
    have hinst : inst ∈ k.stock := was.symm.subset List.mem_cons_self
    have hnodup : (inst.id :: others.map Instance.id).Nodup :=
      (was.map Instance.id).nodup (ids_stock k ▸ h.exclusive.nodup)
    have next : k'.pool.nextId = k.pool.nextId := by rw [pool]
    refine h.concat exclusive (by rw [pool]) (by rw [pool]; rfl)
      (Nat.le_of_eq next.symm) (next ▸ h.below hinst) (by simp)
      fun other hother => ?_
    rcases List.mem_cons.mp (stock.subset hother) with rfl | hother
    · simp [Note.live, h.live inst hinst]
    · have hne : inst.id ≠ other.id := fun heq =>
        (List.nodup_cons.mp hnodup).1
          (heq ▸ List.mem_map.mpr ⟨other, hother, rfl⟩)
      exact (if_neg hne).trans
        (h.live other (was.symm.subset (List.mem_cons_of_mem _ hother)))

/-- The pool hands out the latest, and a new one if there is none. -/
theorem Stacked.get_latest {E : Type} (h : Stacked policy past k)
    {inst : Instance S} (latest : Latest past inst)
    (configure : Except E S) : (k.pool.get configure).1 = .ok inst := by
  rw [← head_waiting, ← h.row] at latest
  obtain ⟨rest, hidle⟩ := List.head?_eq_some_iff.mp latest
  simp [Pool.get, Pool.pop?, hidle]

theorem Stacked.get_new {E : Type} (h : Stacked policy past k)
    (none_latest : ∀ inst, ¬ Latest past inst) (configure : Except E S) :
    (k.pool.get configure).1
      = configure.map fun state => ⟨k.pool.nextId, 0, state⟩ := by
  rw [← waiting_eq_nil, ← h.row] at none_latest
  cases configure <;>
    simp [Pool.get, Pool.pop?, none_latest, Pool.create, Except.map]

end Histories

/-! ## Steps -/

/-- A caller who has nothing that passes the test gives nothing back. -/
theorem giveBack_unseen {k : Crowd C S} {test : Possession C S → Bool}
    (h : k.pull? test = none) : (k.giveBack test).2 = none := by
  rw [giveBack, h]

variable [DecidableEq C]

/-- What a move does with an instance. -/
def note? (k : Crowd C S) : Move C S → Option (Note S)
  | .get c _ =>
    if k.activity c = .free then k.pool.idle.head?.map .reused else none
  | .configure c (some state) =>
    match k.activity c with
    | .configuring _ | .warming (_ + 1) =>
      some (.configured (k.pool.create state).1)
    | _ => none
  | .use c id state => (k.ran? (.use c id state)).map (.used · state)
  | m =>
    (k.offered? m).map fun (p, _) =>
      if k.pool.keeps p.inst then .kept p.inst else .dropped p.inst

/-- The notes of all steps of a run. -/
def history (k : Crowd C S) : List (Move C S) → List (Note S)
  | [] => []
  | m :: rest => (k.note? m).toList ++ history (k.step m).1 rest

theorem lookFor_noted {k : Crowd C S} {c : C} (free : k.activity c = .free)
    (guarded : Bool) :
    Noted k (k.lookFor c guarded).1 (k.note? (.get c guarded)) := by
  simp only [note?, if_pos free, lookFor, Pool.pop?]
  cases hidle : k.pool.idle with
  | nil => exact noted_quiet rfl fun q hq => ⟨q, hq, rfl⟩
  | cons inst rest =>
    refine .reused inst rest hidle rfl (stock_subset ?_ fun q hq => ?_)
    · intro other hother
      exact List.mem_append_left _ (hidle ▸ List.mem_cons_of_mem _ hother)
    · rcases List.mem_append.mp hq with hq | hq
      · exact mem_stock_held hq
      · rw [List.mem_singleton.mp hq]
        exact List.mem_append_left _ (hidle ▸ List.mem_cons_self)

theorem configured_noted (k : Crowd C S) (c : C) (state : S) :
    Noted k (k.configured c (some state)).1
      (k.note? (.configure c (some state))) := by
  simp only [note?, configured]
  cases k.activity c with
  | free => exact noted_refl k
  | configuring guarded => exact noted_configured rfl rfl rfl
  | warming left =>
    cases left with
    | zero => exact noted_refl k
    | succ left => exact noted_configured rfl rfl rfl

theorem use_noted {k : Crowd C S} {c : C} (free : k.activity c = .free)
    (id : Nat) (state : S) :
    Noted k (k.change (·.isUsable c id) (·.used state))
      (k.note? (.use c id state)) := by
  simp only [note?, ran?, free, true_and]
  rcases change_split (·.isUsable c id) (·.used state) k.held
    with ⟨hany, hgo⟩ | ⟨front, p, back, hany, hp, hrow, hgo⟩
  · rw [hany]
    exact noted_quiet rfl fun q hq => ⟨q, hgo ▸ hq, rfl⟩
  · simp only [Possession.isUsable, Bool.and_eq_true, decide_eq_true_eq]
      at hp
    obtain rfl := hp.2
    rw [hany]
    refine .used p.inst state
      (k.pool.idle ++ (front ++ back).map Possession.inst) ?_ rfl ?_
    · rw [stock, hrow]
      simp only [List.map_append, List.map_cons]
      rw [← List.append_assoc, ← List.append_assoc]
      exact List.perm_middle
    · have hheld : (k.change (·.isUsable c p.inst.id)
          (·.used state)).held = front ++ p.used state :: back := hgo
      rw [stock, hheld]
      simp only [List.map_append, List.map_cons]
      rw [← List.append_assoc, ← List.append_assoc]
      exact List.perm_middle

/-- A deal in which nothing can be seen, and nothing was made or used. -/
theorem Deal.quiet {k k' : Crowd C S} {m : Move C S}
    (deal : Deal k k' m none)
    (old : ∀ c state, m ≠ .configure c (some state))
    (unused : k.ran? m = none) : Noted k k' none := by
  cases deal with
  | still m unused pool held =>
    exact noted_quiet pool fun q hq => ⟨q, held ▸ hq, rfl⟩
  | prepared c state pool held => exact absurd rfl (old c state)
  | failed c pool held =>
    refine noted_quiet pool fun q hq => ⟨q, ?_, rfl⟩
    rw [held] at hq
    exact List.mem_of_mem_filter hq
  | discarded c id front p back was held hold pool =>
    refine noted_quiet pool fun q hq => ⟨q, ?_, rfl⟩
    rw [held] at hq
    rw [was]
    exact ((List.sublist_cons_self p back).append_left front).subset hq
  | detached c id front p back was held hold pool =>
    refine noted_quiet pool fun q hq => ?_
    rw [held, List.mem_append, List.mem_cons] at hq
    rcases hq with hq | rfl | hq
    · exact ⟨q, by simp [was, hq], rfl⟩
    · exact ⟨p, by simp [was], rfl⟩
    · exact ⟨q, by simp [was, hq], rfl⟩
  | used c state front p back ran was held hold pool =>
    rw [ran] at unused
    cases unused

theorem stored_unseen {k : Crowd C S} {c : C}
    (h : k.pull? (·.isFresh c) = none) : (k.stored c).2 = none := by
  unfold stored
  split
  · exact giveBack_unseen h
  · rfl

/-- What is given back is kept or dropped. -/
theorem offered_noted {k k' : Crowd C S} {m : Move C S}
    {p : Possession C S} (h : k.offered? m = some (p, k')) :
    Noted k (k.step m).1 (some (if k.pool.keeps p.inst then .kept p.inst
      else .dropped p.inst)) := by
  obtain ⟨⟨front, back, was, held, pool⟩, hstep⟩ := step_offered h
  have hp : p.inst ∈ k.stock := mem_stock_held (by simp [was])
  rw [hstep, pool]
  refine .returned p.inst hp rfl (stock_subset ?_ fun q hq => ?_)
  · rcases (put_idle k.pool p.inst).1 with hidle | hidle
    · rw [hidle]
      exact List.cons_subset.mpr ⟨hp, List.subset_append_left _ _⟩
    · rw [hidle]
      exact List.subset_append_left _ _
  · refine mem_stock_held ?_
    rw [was]
    rw [held] at hq
    exact ((List.sublist_cons_self p back).append_left front).subset hq

/-- A move that makes and uses nothing gives something back, or cannot be
seen. -/
theorem giving_noted {k : Crowd C S} {m : Move C S}
    (note : k.note? m = (k.offered? m).map fun (p, _) =>
      if k.pool.keeps p.inst then .kept p.inst else .dropped p.inst)
    (old : ∀ c state, m ≠ .configure c (some state))
    (unused : k.ran? m = none)
    (unseen : k.offered? m = none → (k.step m).2 = none) :
    Noted k (k.step m).1 (k.note? m) := by
  rw [note]
  cases h : k.offered? m with
  | some given => exact offered_noted h
  | none => exact (unseen h ▸ step_deal k m).quiet old unused

/-- **Every step leaves its note.** -/
theorem step_noted (k : Crowd C S) (m : Move C S) :
    Noted k (k.step m).1 (k.note? m) := by
  cases m with
  | get c guarded =>
    simp only [step]
    split
    · rename_i free
      exact lookFor_noted free guarded
    · rename_i busy
      rw [note?, if_neg busy]
      exact noted_refl k
  | configure c outcome =>
    cases outcome with
    | some state => exact configured_noted k c state
    | none =>
      refine giving_noted rfl (by simp) rfl fun _ => ?_
      simp only [step, configured]
      split <;> first | rfl | contradiction
  | use c id state =>
    simp only [step]
    split
    · rename_i free
      exact use_noted free id state
    · rename_i busy
      simp only [note?, ran?, busy, false_and, if_false]
      exact noted_refl k
  | detach c id | discard c id | warm c count =>
    refine giving_noted rfl (by simp) rfl fun _ => ?_
    simp only [step]
    split <;> rfl
  | put c id | drop c id =>
    refine giving_noted rfl (by simp) rfl fun h => ?_
    simp only [offered?, step] at h ⊢
    split at h
    · rename_i free
      rw [if_pos free]
      exact giveBack_unseen h
    · rename_i busy
      rw [if_neg busy]
  | store c =>
    refine giving_noted rfl (by simp) rfl fun h => ?_
    simp only [offered?, step] at h ⊢
    split at h
    · rename_i warming
      rw [if_pos warming]
      exact stored_unseen h
    · rename_i busy
      rw [if_neg busy]

/-- **A step keeps pool and history together.** -/
theorem stacked_step {policy : PoolPolicy} {past : List (Note S)}
    {k : Crowd C S} (h : Stacked policy past k) (m : Move C S) :
    Stacked policy (past ++ (k.note? m).toList) (k.step m).1 :=
  stacked_noted h (exclusive_effect h.exclusive (step_effect k m))
    (step_noted k m)

theorem stacked_run {policy : PoolPolicy} (moves : List (Move C S)) :
    ∀ {past : List (Note S)} {k : Crowd C S}, Stacked policy past k →
      Stacked policy (past ++ k.history moves) (k.run moves).1 := by
  induction moves with
  | nil =>
    intro past k h
    rwa [history, List.append_nil]
  | cons m rest ih =>
    intro past k h
    have hrest := ih (stacked_step h m)
    rwa [List.append_assoc] at hrest

/-! ## Getting an instance -/

/-- Others may come between looking for an instance and configuring one, but
what is found is the latest. -/
theorem Stacked.look_latest {policy : PoolPolicy}
    {past : List (Note S)} {k : Crowd C S} (h : Stacked policy past k)
    {c : C} (free : k.activity c = .free) (guarded : Bool)
    {inst : Instance S} (latest : Latest past inst) :
    (k.step (.get c guarded)).2 = some (.handedOut c inst.id)
      ∧ (k.step (.get c guarded)).1.held
        = k.held ++ [⟨c, inst, .handedOut guarded⟩] := by
  rw [← head_waiting, ← h.row] at latest
  obtain ⟨rest, hidle⟩ := List.head?_eq_some_iff.mp latest
  simp [step, free, lookFor, Pool.pop?, hidle, hand]

theorem Stacked.look_new {policy : PoolPolicy}
    {past : List (Note S)} {k : Crowd C S} (h : Stacked policy past k)
    {c : C} (free : k.activity c = .free) (guarded : Bool)
    (none_latest : ∀ inst, ¬ Latest past inst) :
    (k.step (.get c guarded)).1.activity c = .configuring guarded := by
  rw [← waiting_eq_nil, ← h.row] at none_latest
  simp [step, free, lookFor, Pool.pop?, none_latest, turn]

/-- To turn to something else is not to come to configure. -/
theorem update_configuring {activity : C → Activity} {c d : C}
    {a : Activity} {guarded : Bool}
    (h : Function.update activity d a c = .configuring guarded)
    (other : a ≠ .configuring guarded) :
    activity c = .configuring guarded := by
  by_cases hc : c = d
  · subst hc
    rw [Function.update_self] at h
    exact absurd h other
  · rwa [Function.update_of_ne hc] at h

/-- Who comes to configure an instance has found none. -/
theorem step_configuring {k : Crowd C S} {m : Move C S} {c : C}
    {guarded : Bool} (h : (k.step m).1.activity c = .configuring guarded) :
    k.activity c = .configuring guarded
      ∨ m = .get c guarded ∧ k.pool.idle = [] := by
  cases m with
  | get d guarded' =>
    simp only [step, lookFor, Pool.pop?] at h
    split at h
    · cases hidle : k.pool.idle with
      | cons inst rest =>
        rw [hidle] at h
        exact .inl h
      | nil =>
        rw [hidle] at h
        have h : Function.update k.activity d (.configuring guarded') c
          = .configuring guarded := h
        by_cases hc : c = d
        · subst hc
          rw [Function.update_self] at h
          exact .inr ⟨by rw [Activity.configuring.inj h], rfl⟩
        · rw [Function.update_of_ne hc] at h
          exact .inl h
    · exact .inl h
  | configure d outcome =>
    simp only [step, configured] at h
    split at h
    · exact .inl (update_configuring h (by simp))
    · exact .inl (update_configuring h (by simp))
    · exact .inl (update_configuring h (by simp))
    · exact .inl (update_configuring h (by simp))
    · exact .inl h
  | put d id | drop d id =>
    simp only [step] at h
    split at h
    · exact .inl (giveBack_activity k _ ▸ h)
    · exact .inl h
  | detach d id | discard d id | use d id state =>
    simp only [step] at h
    split at h <;> exact .inl h
  | warm d count =>
    simp only [step] at h
    split at h
    · exact .inl (update_configuring h (by simp))
    · exact .inl h
  | store d =>
    simp only [step, stored] at h
    split at h
    · split at h
      · exact .inl (giveBack_activity k _ ▸ h)
      · exact .inl (update_configuring h (by simp))
    · exact .inl h

/-- What a move gives back is kept where it has a use left and there is
room. -/
theorem Stacked.give_back {policy : PoolPolicy} {past : List (Note S)}
    {k k' : Crowd C S} (h : Stacked policy past k) {m : Move C S}
    {p : Possession C S} (offered : k.offered? m = some (p, k')) :
    (k.step m).1.pool = k.pool.put p.inst
      ∧ k.note? m = some (if k.pool.keeps p.inst then .kept p.inst
        else .dropped p.inst)
      ∧ (k.pool.keeps p.inst = true
        ↔ (∀ most, policy.maxUses = some most → p.inst.uses < most)
          ∧ ∀ most, policy.maxIdle = some most →
            (waiting past).length < most) := by
  obtain ⟨⟨_, _, -, -, pool⟩, hstep⟩ := step_offered offered
  refine ⟨by rw [hstep, pool], ?_, ?_⟩
  · cases m with
    | put c id | drop c id | store c => simp only [note?, offered,
        Option.map_some]
    | get | configure | detach | discard | use | warm => cases offered
  · rw [Pool.keeps_iff, h.same, h.row]

/-- **A pool is a bounded stack.** Whatever the policy, and in whatever order
the callers of a new pool have made their steps: whoever asks for an
instance gets the latest of those that were kept and not taken since. If
there is none a new one is configured, with an identity that none has had
before and without uses, and nobody configures one who has not looked in
vain, or makes some ahead of time. An instance that comes back is kept where
it has a use left and there is room. No instance is configured a second
time: whoever has it finds it as it was configured and then used. -/
theorem run_latest {E : Type} (policy : PoolPolicy)
    (moves : List (Move C S)) (configure : Except E S) :
    let k := ((start policy : Crowd C S).run moves).1
    let past := (start policy : Crowd C S).history moves
    ((∀ inst, Latest past inst → (k.pool.get configure).1 = .ok inst)
        ∧ ((∀ inst, ¬ Latest past inst) → (k.pool.get configure).1
          = configure.map fun state => ⟨k.pool.nextId, 0, state⟩))
      ∧ (∀ c guarded, k.activity c = .free →
        (∀ inst, Latest past inst →
          (k.step (.get c guarded)).2 = some (.handedOut c inst.id)
            ∧ (k.step (.get c guarded)).1.held
              = k.held ++ [⟨c, inst, .handedOut guarded⟩])
          ∧ ((∀ inst, ¬ Latest past inst) →
            (k.step (.get c guarded)).1.activity c = .configuring guarded))
      ∧ (∀ m c guarded,
        (k.step m).1.activity c = .configuring guarded →
        k.activity c = .configuring guarded
          ∨ m = .get c guarded ∧ ∀ inst, ¬ Latest past inst)
      ∧ (∀ m p k', k.offered? m = some (p, k') →
        (k.step m).1.pool = k.pool.put p.inst
          ∧ k.note? m = some (if k.pool.keeps p.inst then .kept p.inst
            else .dropped p.inst)
          ∧ (k.pool.keeps p.inst = true
            ↔ (∀ most, policy.maxUses = some most → p.inst.uses < most)
              ∧ ∀ most, policy.maxIdle = some most →
                (waiting past).length < most))
      ∧ (∀ inst, inst ∈ waiting past ↔ Waits past inst)
      ∧ (∀ note ∈ past, note.id < k.pool.nextId)
      ∧ (past.filterMap Note.made?).Nodup
      ∧ (∀ inst, .configured inst ∈ past → inst.uses = 0)
      ∧ ∀ inst ∈ k.stock, lifeline past inst.id = some inst := by
  intro k past
  have h : Stacked policy past k := stacked_run moves (stacked_start policy)
  have hnone : k.pool.idle = [] ↔ ∀ inst, ¬ Latest past inst := by
    rw [h.row, waiting_eq_nil]
  refine ⟨⟨?_, ?_⟩, ?_, ?_, ?_, fun inst => mem_waiting, h.older, h.once,
    h.new, h.live⟩
  · exact fun inst latest => h.get_latest latest configure
  · exact fun none_latest => h.get_new none_latest configure
  · intro c guarded free
    exact ⟨fun inst latest => h.look_latest free guarded latest,
      fun none_latest => h.look_new free guarded none_latest⟩
  · intro m c guarded configuring
    exact (step_configuring configuring).imp_right fun ⟨hm, hidle⟩ =>
      ⟨hm, hnone.mp hidle⟩
  · exact fun m p k' offered => h.give_back offered

/-- Two callers at a pool that keeps one idle instance. The second one gives
its own back first, and finds that one again. -/
def crossing : List (Move Bool Unit) :=
  [.get false true, .get true false, .configure false (some ()),
    .configure true (some ()), .use true 2 (), .put true 2, .drop false 1]

theorem get_crossing :
    let run := (start { maxIdle := some 1 } : Crowd Bool Unit).run crossing
    run.1.pool.stats = { created := 2, idle := 1, dropped := 1 }
      ∧ (run.1.pool.get (.ok () : Except Unit Unit)).1 = .ok ⟨2, 1, ()⟩ := by
  refine ⟨rfl, (run_latest { maxIdle := some 1 } crossing
    (.ok () : Except Unit Unit)).1.1 _ ?_⟩
  exact ⟨[.configured ⟨1, 0, ()⟩, .configured ⟨2, 0, ()⟩, .used 2 ()],
    [.dropped ⟨1, 0, ()⟩], rfl, by decide,
    fun other hother => by simp [← mem_waiting, waiting, Note.settle] at hother⟩

end Crowd

end ScriptHost
