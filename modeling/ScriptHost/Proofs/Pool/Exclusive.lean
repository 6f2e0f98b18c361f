/-
ScriptHost.Proofs.Pool.Exclusive — an instance is in one place at a time.

In whatever order the steps of the callers follow each other, an instance is
either idle, or in the hands of one caller, or gone. The invariant that
carries this (`Exclusive`) speaks of the idle instances and of those that
are held as one row: no identity occurs twice in it, and every identity in
it is older than the next one that the pool gives.

`run_ids_disjoint` is the main statement. Its last part is about the whole
history: between two times that an instance is handed out, the caller who
got it first has given it back.
-/
import Mathlib.Data.List.Nodup
import Mathlib.Data.List.Perm.Subperm
import ScriptHost.Proofs.Pool.Crowd

namespace ScriptHost.Crowd

variable {C S : Type}

/-! ## The identities in a crowd -/

/-- The identities of all instances, idle ones first. -/
def ids (k : Crowd C S) : List Nat :=
  k.pool.idle.map Instance.id ++ k.held.map (·.inst.id)

/-- Every instance is in one place, and the pool gives no identity again. -/
structure Exclusive (k : Crowd C S) : Prop where
  nodup : k.ids.Nodup
  below : ∀ id ∈ k.ids, id < k.pool.nextId

theorem exclusive_start (policy : PoolPolicy) :
    Exclusive (start policy : Crowd C S) :=
  ⟨by simp [ids, start], by simp [ids, start]⟩

/-- The pool keeps an instance that it takes back, or does not. -/
theorem put_idle (p : Pool S) (inst : Instance S) :
    ((p.put inst).idle = inst :: p.idle ∨ (p.put inst).idle = p.idle)
      ∧ (p.put inst).nextId = p.nextId := by
  unfold Pool.put
  split
  · exact ⟨.inr rfl, rfl⟩
  · exact ⟨.inl rfl, rfl⟩

/-- A step takes identities away or moves them, or adds the next one. -/
theorem ids_effect {k k' : Crowd C S} {e : Option (Event C)}
    (h : Effect k k' e) :
    (k'.ids.Subperm k.ids ∧ k'.pool.nextId = k.pool.nextId)
      ∨ (k'.ids.Perm (k.pool.nextId :: k.ids)
        ∧ k'.pool.nextId = k.pool.nextId + 1) := by
  cases h with
  | quiet pool held =>
    exact .inl ⟨by rw [ids, ids, pool, held], by rw [pool]⟩
  | popped c inst rest hold handed idle pool held =>
    refine .inl ⟨List.Perm.subperm ?_, by rw [pool]⟩
    simp only [ids, pool, held, idle, List.map_append, List.map_cons,
      List.map_nil, List.cons_append]
    rw [← List.append_assoc]
    exact List.perm_append_singleton _ _
  | created c state hold handed pool held =>
    refine .inr ⟨?_, by rw [pool]; rfl⟩
    simp only [ids, pool, held, Pool.create, List.map_append,
      List.map_cons, List.map_nil]
    rw [← List.append_assoc]
    exact List.perm_append_singleton _ _
  | prepared c state pool held =>
    refine .inr ⟨?_, by rw [pool]; rfl⟩
    simp only [ids, pool, held, Pool.create, List.map_append,
      List.map_cons, List.map_nil]
    rw [← List.append_assoc]
    exact List.perm_append_singleton _ _
  | returned front p back was held pool =>
    obtain ⟨hidle, hnext⟩ := put_idle k.pool p.inst
    refine .inl ⟨?_, by rw [pool, hnext]⟩
    have hids : k.ids.Perm (p.inst.id :: (k.pool.idle.map Instance.id
        ++ (front ++ back).map (·.inst.id))) := by
      simp only [ids, was, List.map_append, List.map_cons]
      rw [← List.append_assoc, ← List.append_assoc]
      exact List.perm_middle
    rw [hids.symm.subperm_left.symm]
    simp only [ids, pool, held]
    rcases hidle with hidle | hidle
    · rw [hidle]
      exact .refl _
    · rw [hidle]
      exact .cons_self
  | lost pool held =>
    refine .inl ⟨List.Sublist.subperm ?_, by rw [pool]⟩
    rw [ids, ids, pool]
    exact (held.map _).append_left _
  | changed front p q back was held how pool =>
    have hid : q.inst.id = p.inst.id := by
      rcases how with rfl | ⟨state, rfl⟩ <;> rfl
    refine .inl ⟨?_, by rw [pool]⟩
    simp only [ids, pool, held, was, List.map_append, List.map_cons, hid]
    exact .refl _

theorem exclusive_effect {k k' : Crowd C S} {e : Option (Event C)}
    (h : Exclusive k) (step : Effect k k' e) : Exclusive k' := by
  rcases ids_effect step with ⟨hsub, hnext⟩ | ⟨hperm, hnext⟩
  · refine ⟨?_, fun id hid => hnext ▸ h.below id (hsub.subset hid)⟩
    obtain ⟨l, hl, hs⟩ := hsub
    exact hl.nodup (hs.nodup h.nodup)
  · constructor
    · rw [hperm.nodup_iff, List.nodup_cons]
      exact ⟨fun hmem => Nat.lt_irrefl _ (h.below _ hmem), h.nodup⟩
    · intro id hid
      rw [hnext]
      rcases List.mem_cons.mp (hperm.subset hid) with rfl | hid
      · exact Nat.lt_succ_self _
      · exact Nat.lt_succ_of_lt (h.below id hid)

/-! ## Between two times that an instance is handed out -/

/-- The instance is in the hands of the caller or gone, in any case not in
the pool. -/
structure OutWith (k : Crowd C S) (c : C) (id : Nat) : Prop where
  below : id < k.pool.nextId
  not_idle : id ∉ k.pool.idle.map Instance.id
  holder : ∀ p ∈ k.held, p.inst.id = id → p.caller = c

/-- Whoever is handed an instance has it alone. -/
theorem outWith_handedOut {k k' : Crowd C S} {c : C} {id : Nat}
    (h : Exclusive k) (step : Effect k k' (some (.handedOut c id))) :
    OutWith k' c id := by
  have h' := exclusive_effect h step
  -- In either case the new possession is the last one in the hands of the
  -- callers, so its identity occurs nowhere before it.
  have key : ∀ inst hold, k'.held = k.held ++ [⟨c, inst, hold⟩] →
      inst.id = id → OutWith k' c id := by
    intro inst hold held hid
    have hids : k'.ids = (k'.pool.idle.map Instance.id
        ++ k.held.map (·.inst.id)) ++ [id] := by
      simp [ids, held, hid]
    have hnew := h'.nodup
    rw [hids, List.nodup_append] at hnew
    have hfresh : id ∉ k'.pool.idle.map Instance.id
        ++ k.held.map (·.inst.id) :=
      fun hmem => hnew.2.2 id hmem id (by simp) rfl
    rw [List.mem_append, not_or] at hfresh
    refine ⟨h'.below id (by simp [hids]), hfresh.1, ?_⟩
    intro p hp hpid
    rw [held, List.mem_append, List.mem_singleton] at hp
    rcases hp with hp | rfl
    · exact absurd (List.mem_map.mpr ⟨p, hp, hpid⟩) hfresh.2
    · rfl
  cases step with
  | popped _ inst rest hold handed idle pool held =>
    exact key inst hold held rfl
  | created _ state hold handed pool held =>
    exact key _ hold held rfl

/-- Another instance in somebody's hands changes nothing for this one. -/
theorem holder_concat {k k' : Crowd C S} {c : C} {id : Nat}
    (holder : ∀ p ∈ k.held, p.inst.id = id → p.caller = c)
    {new : Possession C S} (held : k'.held = k.held ++ [new])
    (other : new.inst.id ≠ id) :
    ∀ p ∈ k'.held, p.inst.id = id → p.caller = c := by
  intro p hp hpid
  rw [held, List.mem_append, List.mem_singleton] at hp
  rcases hp with hp | rfl
  · exact holder p hp hpid
  · exact absurd hpid other

/-- While the caller does not give it back, nobody else gets it. -/
theorem outWith_effect {k k' : Crowd C S} {c : C} {id : Nat}
    {e : Option (Event C)} (h : OutWith k c id) (step : Effect k k' e)
    (kept : e ≠ some (.takenBack c id)) :
    OutWith k' c id ∧ ∀ d, e ≠ some (.handedOut d id) := by
  obtain ⟨below, not_idle, holder⟩ := h
  cases step with
  | quiet pool held =>
    exact ⟨⟨by rwa [pool], by rwa [pool], by rwa [held]⟩, by simp⟩
  | popped d inst rest hold handed idle pool held =>
    rw [idle, List.map_cons, List.mem_cons, not_or] at not_idle
    refine ⟨⟨by rwa [pool], by rw [pool]; exact not_idle.2,
      holder_concat holder held (Ne.symm not_idle.1)⟩, ?_⟩
    intro d' heq
    simp only [Option.some.injEq, Event.handedOut.injEq] at heq
    exact not_idle.1 heq.2.symm
  | created d state hold handed pool held =>
    refine ⟨⟨by rw [pool]; exact Nat.lt_succ_of_lt below,
      by rw [pool]; exact not_idle,
      holder_concat holder held (Nat.ne_of_gt below)⟩, ?_⟩
    intro d' heq
    simp only [Pool.create, Option.some.injEq, Event.handedOut.injEq]
      at heq
    exact absurd heq.2 (Nat.ne_of_gt below)
  | prepared d state pool held =>
    exact ⟨⟨by rw [pool]; exact Nat.lt_succ_of_lt below,
      by rw [pool]; exact not_idle,
      holder_concat holder held (Nat.ne_of_gt below)⟩, by simp⟩
  | returned front p back was held pool =>
    obtain ⟨hidle, hnext⟩ := put_idle k.pool p.inst
    -- What goes to the pool is another instance: this one would be given
    -- back by the caller who has it.
    have hother : p.inst.id ≠ id := by
      rintro rfl
      have hc : p.caller = c := holder p (by simp [was]) rfl
      exact kept (by rw [hc])
    refine ⟨⟨by rw [pool, hnext]; exact below, ?_, ?_⟩, by simp⟩
    · rw [pool]
      rcases hidle with hidle | hidle
      · rw [hidle, List.map_cons, List.mem_cons, not_or]
        exact ⟨hother.symm, not_idle⟩
      · rw [hidle]
        exact not_idle
    · intro q hq
      refine holder q ?_
      rw [held, List.mem_append] at hq
      rw [was, List.mem_append, List.mem_cons]
      exact hq.imp_right .inr
  | lost pool held =>
    exact ⟨⟨by rwa [pool], by rwa [pool],
      fun p hp => holder p (held.subset hp)⟩, by simp⟩
  | changed front p q back was held how pool =>
    refine ⟨⟨by rwa [pool], by rwa [pool], ?_⟩, by simp⟩
    have hp := holder p (by simp [was])
    have hq : q.inst.id = id → q.caller = c := by
      rcases how with rfl | ⟨state, rfl⟩ <;> exact hp
    intro r hr
    rw [held, List.mem_append, List.mem_cons] at hr
    rcases hr with hr | rfl | hr
    · exact holder r (by simp [was, hr])
    · exact hq
    · exact holder r (by simp [was, hr])

variable [DecidableEq C]

theorem exclusive_run {k : Crowd C S} (h : Exclusive k)
    (moves : List (Move C S)) : Exclusive (k.run moves).1 :=
  run_invariant (fun k m hk => exclusive_effect hk (step_effect k m)) h moves

/-- An instance that is handed out again was given back before. -/
theorem outWith_run {k : Crowd C S} {c d : C} {id : Nat}
    (h : OutWith k c id) (moves : List (Move C S))
    {between after : List (Event C)}
    (again : (k.run moves).2 = between ++ .handedOut d id :: after) :
    .takenBack c id ∈ between := by
  induction moves generalizing k between with
  | nil => simp at again
  | cons m rest ih =>
    rw [run_cons] at again
    by_cases hm : (k.step m).2 = some (.takenBack c id)
    · rw [hm, Option.toList_some] at again
      cases between with
      | nil => simp at again
      | cons b between =>
        simp only [List.cons_append, List.cons.injEq] at again
        rw [← again.1]
        exact List.mem_cons_self
    · obtain ⟨hout, hnot⟩ := outWith_effect h (step_effect k m) hm
      cases he : (k.step m).2 with
      | none =>
        rw [he, Option.toList_none, List.nil_append] at again
        exact ih hout again
      | some e =>
        rw [he, Option.toList_some] at again
        cases between with
        | nil =>
          simp only [List.cons_append, List.nil_append,
            List.cons.injEq] at again
          exact absurd (by rw [he, again.1]) (hnot d)
        | cons b between =>
          simp only [List.cons_append, List.nil_append,
            List.cons.injEq] at again
          exact List.mem_cons_of_mem _ (ih hout again.2)

/-! ## All interleavings -/

/-- **An instance is in one place at a time.** Whatever steps the callers of
a new pool have made, in whatever order: no identity is idle twice, none is
both idle and held, none is held twice, by one caller or by two. And if an
instance is handed out a second time, the caller who got it the first time
has given it back in between. -/
theorem run_ids_disjoint (policy : PoolPolicy) (moves : List (Move C S)) :
    let (k, events) := (start policy : Crowd C S).run moves
    (k.pool.idle.map Instance.id).Nodup
      ∧ (∀ inst ∈ k.pool.idle, ∀ p ∈ k.held, p.inst.id ≠ inst.id)
      ∧ (k.held.map (·.inst.id)).Nodup
      ∧ (∀ p ∈ k.held, ∀ q ∈ k.held, p.inst.id = q.inst.id → p = q)
      ∧ ∀ before c id between d after,
        events = before ++ .handedOut c id
          :: (between ++ .handedOut d id :: after) →
        .takenBack c id ∈ between := by
  have h := exclusive_run (exclusive_start policy) moves
  have hnodup := List.nodup_append.mp h.nodup
  refine ⟨hnodup.1, ?_, hnodup.2.1, ?_, ?_⟩
  · intro inst hinst p hp heq
    exact hnodup.2.2 _ (List.mem_map.mpr ⟨inst, hinst, rfl⟩) _
      (List.mem_map.mpr ⟨p, hp, rfl⟩) heq.symm
  · intro p hp q hq heq
    exact List.inj_on_of_nodup_map hnodup.2.1 hp hq heq
  · intro before c id between d after hevents
    obtain ⟨first, m, last, -, hm, hlast⟩ := run_event hevents
    have hfirst := exclusive_run (exclusive_start policy) first
    have hout := outWith_handedOut hfirst (hm ▸ step_effect _ m)
    exact outWith_run hout last hlast

/-- The last part speaks of something: an instance that one caller gives
back is handed out to another. -/
theorem handedOut_after_takenBack :
    let (k, events) := (start {} : Crowd Nat Unit).run
      [.get 1 true, .configure 1 (some ()), .get 2 false, .drop 1 1,
        .get 3 false]
    k.held.map (fun p => (p.caller, p.inst.id)) = [(3, 1)]
      ∧ events = [] ++ .handedOut 1 1
        :: ([.takenBack 1 1] ++ .handedOut 3 1 :: [])
      ∧ .takenBack 1 1 ∈ [(.takenBack 1 1 : Event Nat)] :=
  ⟨rfl, rfl, (run_ids_disjoint {}
    [.get 1 true, .configure 1 (some ()), .get 2 false, .drop 1 1,
      .get 3 false]).2.2.2.2 [] 1 1 _ 3 [] rfl⟩

end ScriptHost.Crowd
