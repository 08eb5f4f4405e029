import Affinity.Proofs.Runtime.Refusals
/-!
The chain of connects a pool starts for its waiters.

`World.connect` opens a connection and spawns its connect task on the requester's context. When
the spawn is refused (the context is gone, or the runtime has stopped), `World.connectFailed`
aborts the connection, gives the attempt's slot back, possibly to the oldest waiter
(`Pool.nextWaiter`), counts a failure, reports it, and connects again for that waiter. The chain
is recursion through fuel, two steps per round.

* Every chain opens at most one connection more than there are waiters (`size_conns_connect_le`),
  and two steps of fuel per round are enough: more changes nothing (`connect_fuel_stable`).
* When every spawn is refused, one round (`connect_refused`) leaves the aborted connection, a
  report, and the pool as `Pool.refuse` says; rounds follow the waiters in order, so the chain
  ends in `World.afterRefusals` (`connect_of_refused`): one closed connection and one report per
  round, the pool with no waiters, one slot fewer, one failure more per round and its live
  connections as before, and nothing queued for any worker.

The pool a connect starts from holds the attempt's slot (`Pool.Opening`).

Main statement: `connect_chain_ends_balanced`.
-/

namespace Affinity

theorem Array.modify_modify_self {α : Type} (xs : Array α) (i : Nat) (f g : α → α) :
    (xs.modify i f).modify i g = xs.modify i (g ∘ f) := by
  apply Array.ext_getElem?
  intro j
  simp only [Array.getElem?_modify]
  split <;> simp

theorem Array.modify_push_size {α : Type} (xs : Array α) (a : α) (f : α → α) :
    (xs.push a).modify xs.size f = xs.push (f a) := by
  apply Array.ext_getElem?
  intro j
  simp only [Array.getElem?_modify, Array.getElem?_push]
  split <;> split <;> simp_all

namespace Pool

/-- The connection a refused attempt leaves behind: opened as connection `id` for `ctx`, then
    aborted, so closed, with no callbacks, no driver and no close hook. -/
def refusedAttempt (p : Pool) (id : Nat) (ctx : ContextId) : Connection :=
  { id, endpoint := p.endpoint, keepAlive := p.config.keepAlive, owner := ctx, epoch := 1,
    state := .closed, driverHeld := false }

/-- What a refused attempt does to the pool that counted it: its slot is freed, possibly for
    the oldest waiter, and one failure is counted. -/
def refuse (p : Pool) : Option ContextId × Pool :=
  (({ p with active := p.active - 1 } : Pool).nextWaiter.1,
    { ({ p with active := p.active - 1 } : Pool).nextWaiter.2 with
      failed := ({ p with active := p.active - 1 } : Pool).nextWaiter.2.failed + 1 })

/-- A pool in the middle of opening a connection: the attempt holds one of its slots, within the
    pool's size, and a closed pool has no waiters. -/
structure Opening (p : Pool) : Prop where
  active_pos : 1 ≤ p.active
  active_le : p.active ≤ p.config.maxSize
  waiters_of_closed : p.closed = true → p.waiters = []

variable {p : Pool} {c : Nat} {ctx : ContextId}

theorem forget_track (hc : c ∉ p.liveIds) : (p.track c ctx).forget c = { p with active := p.active - 1 } := by
  have hkeep : p.live.filter (·.1 != c) = p.live :=
    List.filter_eq_self.2 fun e he => by
      have : e.1 ≠ c := fun h => hc (h ▸ List.mem_map_of_mem he)
      simpa using this
  simp [forget, track, List.filter_append, hkeep]

/-- A failed connect of a connection just tracked is a refusal of the pool before the tracking. -/
theorem dropFailed_track (hc : c ∉ p.liveIds) : (p.track c ctx).dropFailed c = p.refuse := by
  rw [dropFailed_of_mem (by simp), forget_track hc]
  rfl

@[simp] theorem refuse_report : p.refuse.2.report = p.report := by
  unfold refuse
  rw [nextWaiter_report]

theorem refuse_of_nil (hw : p.waiters = []) :
    p.refuse = (none, { p with active := p.active - 1, failed := p.failed + 1 }) := by
  unfold refuse nextWaiter
  split <;> simp [hw]

theorem refuse_of_cons {ws : List ContextId} (ho : p.Opening) (hw : p.waiters = ctx :: ws) :
    p.refuse = (some ctx, { p with waiters := ws, failed := p.failed + 1 }) := by
  have hopen : p.closed = false := by
    cases hc : p.closed
    · rfl
    · exact absurd (ho.waiters_of_closed hc) (by simp [hw])
  have hfree : p.active - 1 < p.config.maxSize := by
    have := ho.active_le
    have := ho.active_pos
    omega
  have hback : p.active - 1 + 1 = p.active := Nat.sub_add_cancel ho.active_pos
  unfold refuse nextWaiter
  simp [hopen, hw, hback, Nat.not_le.2 hfree]

/-- The slot a refused attempt frees goes straight to the next attempt, which finds its pool
    opening again. -/
theorem Opening.next {ws : List ContextId} (ho : p.Opening) (hw : p.waiters = ctx :: ws) :
    ({ p with waiters := ws, failed := p.failed + 1 } : Pool).Opening where
  active_pos := ho.active_pos
  active_le := ho.active_le
  waiters_of_closed h := by
    rw [ho.waiters_of_closed h] at hw
    cases hw

/-- A failed connect takes the oldest waiter off the queue for the next attempt, or keeps the
    queue. -/
theorem dropFailed_waiters (id : Nat) :
    ((p.dropFailed id).1 = none ∧ (p.dropFailed id).2.waiters = p.waiters) ∨
      ∃ c, (p.dropFailed id).1 = some c ∧ p.waiters = c :: (p.dropFailed id).2.waiters := by
  unfold dropFailed
  generalize hq : (if (p.leaseOf id).isSome then p.forget id else p) = q
  have hw : q.waiters = p.waiters := by rw [← hq]; split <;> rfl
  rcases nextWaiter_cases (show q.nextWaiter = (q.nextWaiter.1, q.nextWaiter.2) from rfl) with
    ⟨hn, he, -⟩ | ⟨c, ws, -, -, hcw, hn, he⟩
  · exact .inl ⟨hn, by simp only [he, hw]⟩
  · exact .inr ⟨c, hn, by simp only [he, ← hw, hcw]⟩

end Pool

namespace World

/-- The report of an attempt for `ctx` that could not be spawned there. -/
def refusalReport (x : Exec) (pool : Nat) (ctx : ContextId) (e : Error) : Event :=
  ⟨.poolError pool (.admission ("cannot open connection on " ++ ctx.display ++ ": " ++ e.message)), x.ctx⟩

/-- The world after one refused attempt for `ctx` of pool `pool`, which was `p` and is now `q`:
    the aborted connection is added, and the refusal reported if the pool reports errors. -/
def afterRefusal (w : World) (x : Exec) (pool : Nat) (p q : Pool) (ctx : ContextId) (e : Error) : World :=
  { w with conns := w.conns.push (p.refusedAttempt (w.conns.size + 1) ctx),
           pools := w.pools.modify pool fun _ => q,
           notes := if p.report then w.notes.push (refusalReport x pool ctx e) else w.notes }

/-- The world after refused attempts for the contexts `cs` in turn, the pool being `p` at the
    first: one aborted connection each, numbered on from the last connection, and one report each
    if the pool reports errors; the pool has no waiters left, one slot fewer, and one failure more
    per attempt. -/
def afterRefusals (w : World) (x : Exec) (pool : Nat) (p : Pool) (refusal : ContextId → Error)
    (cs : List ContextId) : World :=
  { w with
    conns := w.conns ++ (cs.mapIdx fun i c => p.refusedAttempt (w.conns.size + 1 + i) c).toArray
    pools := w.pools.modify pool fun _ =>
      { p with waiters := [], active := p.active - 1, failed := p.failed + cs.length }
    notes := if p.report then w.notes ++ (cs.map fun c => refusalReport x pool c (refusal c)).toArray
      else w.notes }

variable {w : World} {x : Exec} {pool : Nat} {p : Pool} {ctx : ContextId} {e : Error}

theorem DispatchRefusal.congr {v : World} (h : w.DispatchRefusal ctx e) (hr : v.registry = w.registry)
    (hrun : v.running = w.running) : v.DispatchRefusal ctx e := by
  rw [dispatchRefusal_iff, hr, hrun]
  exact dispatchRefusal_iff.1 h

theorem DispatchRefusal.spawnOn {v : World} {t : TaskKind} (h : w.DispatchRefusal ctx e)
    (hr : v.registry = w.registry) (hrun : v.running = w.running) : v.spawnOn ctx t = .error e :=
  spawnOn_eq_error_iff.2 (h.congr hr hrun)

theorem pools_report (x : Exec) (pool : Nat) (e : Error) : (w.report x pool e).pools = w.pools := by
  unfold report
  split
  · split <;> rfl
  · rfl

theorem pools_perform_answer (x : Exec) (pool : Nat) (r : Except Error Nat) :
    (w.perform x (.answer pool r)).pools = w.pools := by
  cases r with
  | error e => rfl
  | ok i =>
    simp only [perform]
    split <;> rfl

theorem size_conns_abort (id : Nat) : (w.abort id).2.conns.size = w.conns.size := by
  unfold abort
  split <;> simp [modifyConn]

theorem conns_spawnOn {v : World} {t : TaskKind} (h : w.spawnOn ctx t = .ok v) : v.conns = w.conns := by
  unfold spawnOn submit at h
  split at h
  · cases h
  · split at h <;> cases h
    rfl

/-- The world after the pool has decided on a failed attempt: the decided pool, its report, and
    the answer to the requester when one is owed. -/
def settleFailure (w : World) (x : Exec) (pool : Nat) (e : Error) (q : Pool) (answer : Bool) :
    World :=
  if answer then ((w.modifyPool pool fun _ => q).report x pool e).perform x (.answer pool (.error e))
  else (w.modifyPool pool fun _ => q).report x pool e

/-- After the pool's decision, a failed connect only reports and answers: its connections stay,
    and the pool is the decided one. -/
theorem settle_failure_frame (w : World) (x : Exec) (pool : Nat) (e : Error) (q : Pool) (answer : Bool) :
    (w.settleFailure x pool e q answer).conns = w.conns ∧
    (w.settleFailure x pool e q answer).pools = w.pools.modify pool fun _ => q := by
  cases answer <;>
    simp [settleFailure, ConnSystem.conns_report, pools_report, ConnSystem.conns_perform_answer,
      pools_perform_answer, modifyPool]

theorem size_conns_settleFailure (id : Nat) (q : Pool) (answer : Bool) :
    ((w.abort id).2.settleFailure x pool e q answer).conns.size = w.conns.size := by
  rw [(settle_failure_frame _ x pool e q answer).1, size_conns_abort]

theorem pools_settleFailure (hp : w.pools[pool]? = some p) (id : Nat) (q : Pool) (answer : Bool) :
    ((w.abort id).2.settleFailure x pool e q answer).pools[pool]? = some q := by
  simp [(settle_failure_frame _ x pool e q answer).2, Array.getElem?_modify, hp]

/-- One failed round: the attempt is aborted, the pool decides, and the chain goes on with the
    waiter the pool chose, if any. -/
theorem connectFailed_succ (hp : w.pools[pool]? = some p) (id : Nat) (e : Error) (answer : Bool)
    (fuel : Nat) :
    w.connectFailed x pool id e answer (fuel + 1) =
      (p.dropFailed id).1.elim ((w.abort id).2.settleFailure x pool e (p.dropFailed id).2 answer)
        fun c => ((w.abort id).2.settleFailure x pool e (p.dropFailed id).2 answer).connect x pool c fuel := by
  rw [connectFailed.eq_2]
  split
  rename_i w₁ hab
  have hp₁ : w₁.pools[pool]? = some p := by
    have := pools_abort (w := w) id
    rw [hab] at this
    rw [this, hp]
  simp only [hab, hp₁]
  split <;> rename_i hd <;> simp [hd, settleFailure]

/-- One round whose spawn is refused: the world gets the aborted attempt and its report, the pool
    is refused, and the next round, if any, is for the waiter the slot went to. -/
theorem connect_refused (hp : w.pools[pool]? = some p) (hr : w.DispatchRefusal ctx e)
    (hfresh : w.conns.size + 1 ∉ p.liveIds) (fuel : Nat) :
    w.connect x pool ctx (fuel + 2) =
      p.refuse.1.elim (w.afterRefusal x pool p p.refuse.2 ctx e)
        fun c => (w.afterRefusal x pool p p.refuse.2 ctx e).connect x pool c fuel := by
  rw [connect.eq_2]
  simp only [hp]
  split
  · rename_i v hs
    cases hs.symm.trans (hr.spawnOn rfl rfl)
  · rename_i e' hs
    cases hs.symm.trans (hr.spawnOn rfl rfl)
    rw [connectFailed.eq_2]
    -- the new connection sits past all others: abort finds it, and the pool forgets it again
    simp only [abort, conn?, modifyConn, modifyPool, Nat.add_sub_cancel, Array.modify_push_size,
      Array.getElem?_push_size, Array.getElem?_modify, hp, if_true, Option.map_some,
      Pool.dropFailed_track hfresh, Bool.false_eq_true, if_false, report, Array.modify_modify_self,
      Function.comp_def, Pool.refuse_report]
    cases p.refuse.1 <;> simp only [Option.elim, afterRefusal] <;> cases p.report <;> rfl

theorem pools_afterRefusal (hp : w.pools[pool]? = some p) (q : Pool) :
    (w.afterRefusal x pool p q ctx e).pools[pool]? = some q := by
  simp [afterRefusal, Array.getElem?_modify, hp]

@[simp] theorem size_conns_afterRefusal (q : Pool) :
    (w.afterRefusal x pool p q ctx e).conns.size = w.conns.size + 1 := by
  simp [afterRefusal]

theorem afterRefusals_single {refusal : ContextId → Error} (hw : p.waiters = []) :
    w.afterRefusals x pool p refusal [ctx] =
      w.afterRefusal x pool p { p with active := p.active - 1, failed := p.failed + 1 } ctx (refusal ctx) := by
  obtain ⟨⟩ := p
  subst hw
  simp only [afterRefusals, afterRefusal]
  split <;> rfl

/-- A refused attempt followed by refused attempts for `cs` is a run of refused attempts. -/
theorem afterRefusals_cons {refusal : ContextId → Error} (ws cs : List ContextId) :
    (w.afterRefusal x pool p { p with waiters := ws, failed := p.failed + 1 } ctx (refusal ctx)).afterRefusals
      x pool { p with waiters := ws, failed := p.failed + 1 } refusal cs =
      w.afterRefusals x pool p refusal (ctx :: cs) := by
  have hidx : (fun i c => p.refusedAttempt (w.conns.size + 1 + (i + 1)) c) =
      fun i c => p.refusedAttempt (w.conns.size + 1 + 1 + i) c := by
    funext i c
    rw [Nat.add_assoc _ 1 i, Nat.add_comm 1 i]
  have hfailed : p.failed + 1 + cs.length = p.failed + (cs.length + 1) := by omega
  simp only [afterRefusals, afterRefusal, Array.size_push, List.push_append_toArray, List.mapIdx_cons,
    List.map_cons, List.length_cons, hidx, Array.modify_modify_self, Function.comp_def, hfailed, Nat.add_zero]
  cases p.report
  · rfl
  · simp only [if_true, List.push_append_toArray]
    rfl

theorem pools_afterRefusals (hp : w.pools[pool]? = some p) (refusal : ContextId → Error) (cs : List ContextId) :
    (w.afterRefusals x pool p refusal cs).pools[pool]? =
      some { p with waiters := [], active := p.active - 1, failed := p.failed + cs.length } := by
  simp [afterRefusals, Array.getElem?_modify, hp]

/-- When every spawn is refused, the chain runs one round for the requester and one for each
    waiter in turn, and ends in `afterRefusals`. The induction is on the waiters left; each
    round keeps the pool opening, the connection numbers fresh and the refusals standing. -/
theorem connect_of_refused {refusal : ContextId → Error} : ∀ (ws : List ContextId) {w : World} {p : Pool}
    {ctx : ContextId} {fuel : Nat}, p.waiters = ws → w.pools[pool]? = some p → p.Opening →
    (∀ i ∈ p.liveIds, i ≤ w.conns.size) → (∀ c ∈ ctx :: ws, w.DispatchRefusal c (refusal c)) →
    2 * (ws.length + 1) ≤ fuel → w.connect x pool ctx fuel = w.afterRefusals x pool p refusal (ctx :: ws)
  | [], w, p, ctx, fuel, hw, hp, _, hfresh, hr, hfuel => by
    obtain ⟨f, rfl⟩ : ∃ f, fuel = f + 2 := ⟨fuel - 2, by omega⟩
    have hnew : w.conns.size + 1 ∉ p.liveIds := fun h => by have := hfresh _ h; omega
    rw [connect_refused hp (hr ctx (by simp)) hnew f, Pool.refuse_of_nil hw, afterRefusals_single hw]
    rfl
  | c :: ws, w, p, ctx, fuel, hw, hp, ho, hfresh, hr, hfuel => by
    obtain ⟨f, rfl⟩ : ∃ f, fuel = f + 2 := ⟨fuel - 2, by omega⟩
    have hnew : w.conns.size + 1 ∉ p.liveIds := fun h => by have := hfresh _ h; omega
    rw [connect_refused hp (hr ctx (by simp)) hnew f, Pool.refuse_of_cons ho hw, ← afterRefusals_cons]
    refine connect_of_refused ws rfl (pools_afterRefusal hp _) (ho.next hw) ?_ ?_ (by simp at hfuel ⊢; omega)
    · intro i hi
      have := hfresh i hi
      simp only [size_conns_afterRefusal]
      omega
    · intro d hd
      exact (hr d (List.mem_cons_of_mem _ hd)).congr rfl rfl

/-- Each round of a connect chain opens one connection, and a round that starts another takes a
    waiter off the queue for it: a chain opens at most one connection more than there are
    waiters. -/
theorem size_conns_connect_le (x : Exec) (pool : Nat) : ∀ fuel,
    (∀ (w : World) (ctx : ContextId) (p : Pool), w.pools[pool]? = some p →
      (w.connect x pool ctx fuel).conns.size ≤ w.conns.size + p.waiters.length + 1) ∧
    ∀ (w : World) (id : Nat) (e : Error) (answer : Bool) (p : Pool), w.pools[pool]? = some p →
      (w.connectFailed x pool id e answer fuel).conns.size ≤ w.conns.size + p.waiters.length
  | 0 => ⟨fun w _ _ _ => by rw [connect.eq_1]; omega, fun w _ _ _ _ _ => by rw [connectFailed.eq_1]; omega⟩
  | fuel + 1 => by
    obtain ⟨ihc, ihf⟩ := size_conns_connect_le x pool fuel
    refine ⟨fun w ctx p hp => ?_, fun w id e answer p hp => ?_⟩
    · rw [connect.eq_2]
      simp only [hp]
      split
      · rename_i v hs
        simp only [conns_spawnOn hs, modifyPool, Array.size_push]
        omega
      · refine (ihf _ _ _ _ (p.track (w.conns.size + 1) ctx) ?_).trans ?_
        · simp [modifyConn, modifyPool, Array.getElem?_modify, hp]
        · simp only [modifyConn, modifyPool, Array.size_modify, Array.size_push, Pool.track_waiters]
          omega
    · rw [connectFailed_succ hp]
      rcases Pool.dropFailed_waiters (p := p) id with ⟨hn, -⟩ | ⟨c, hn, hw⟩
      · rw [hn, Option.elim, size_conns_settleFailure]
        omega
      · -- the slot went to the oldest waiter, who has left the queue
        rw [hn, Option.elim]
        refine (ihc _ c _ (pools_settleFailure hp id _ answer)).trans ?_
        rw [size_conns_settleFailure, hw, List.length_cons]
        omega

/-- Two steps of fuel per round are enough: a connect chain given more than two steps for the
    requester and each waiter does the same. -/
theorem connect_fuel_succ (x : Exec) (pool : Nat) : ∀ fuel,
    (∀ (w : World) (ctx : ContextId) (p : Pool), w.pools[pool]? = some p → 2 * (p.waiters.length + 1) ≤ fuel →
      w.connect x pool ctx (fuel + 1) = w.connect x pool ctx fuel) ∧
    ∀ (w : World) (id : Nat) (e : Error) (answer : Bool) (p : Pool), w.pools[pool]? = some p →
      2 * p.waiters.length + 1 ≤ fuel →
      w.connectFailed x pool id e answer (fuel + 1) = w.connectFailed x pool id e answer fuel
  | 0 => ⟨fun _ _ _ _ h => by omega, fun _ _ _ _ _ _ h => by omega⟩
  | fuel + 1 => by
    obtain ⟨ihc, ihf⟩ := connect_fuel_succ x pool fuel
    refine ⟨fun w ctx p hp hf => ?_, fun w id e answer p hp hf => ?_⟩
    · rw [connect.eq_2, connect.eq_2]
      simp only [hp]
      split
      · rfl
      · refine ihf _ _ _ _ (p.track (w.conns.size + 1) ctx) ?_ ?_
        · simp [modifyConn, modifyPool, Array.getElem?_modify, hp]
        · simp only [Pool.track_waiters]
          omega
    · rw [connectFailed_succ hp, connectFailed_succ hp]
      rcases Pool.dropFailed_waiters (p := p) id with ⟨hn, -⟩ | ⟨c, hn, hw⟩
      · rw [hn, Option.elim, Option.elim]
      · rw [hn, Option.elim, Option.elim]
        refine ihc _ c _ (pools_settleFailure hp id _ answer) ?_
        rw [hw, List.length_cons] at hf
        omega

theorem connect_fuel_stable (hp : w.pools[pool]? = some p) (extra : Nat) :
    w.connect x pool ctx (2 * (p.waiters.length + 1) + extra) = w.connect x pool ctx (2 * (p.waiters.length + 1)) := by
  induction extra with
  | zero => rfl
  | succ n ih => rw [← Nat.add_assoc, (connect_fuel_succ x pool _).1 w ctx p hp (by omega), ih]

end World

/-- The connect chain ends, balanced. Every chain of connects for a pool's waiters opens at most
    one connection more than there are waiters, and two steps of fuel per round are enough, so it
    runs at most one round for the requester and one per waiter. When every spawn is refused and
    the pool holds the attempt's slot, the chain runs exactly those rounds, the waiters in order:
    it ends with one aborted connection and one report per round, nothing queued for any worker,
    and the pool with no waiters, its live connections as before, one slot fewer than at the
    start, and one failure more per round. -/
theorem connect_chain_ends_balanced :
    (∀ (w : World) (x : Exec) (pool : Nat) (ctx : ContextId) (p : Pool), w.pools[pool]? = some p →
      (∀ fuel, (w.connect x pool ctx fuel).conns.size ≤ w.conns.size + p.waiters.length + 1) ∧
      ∀ extra, w.connect x pool ctx (2 * (p.waiters.length + 1) + extra) =
        w.connect x pool ctx (2 * (p.waiters.length + 1))) ∧
    (∀ (w : World) (x : Exec) (pool : Nat) (ctx : ContextId) (p : Pool) (refusal : ContextId → Error)
      (fuel : Nat), w.pools[pool]? = some p → p.Opening → (∀ i ∈ p.liveIds, i ≤ w.conns.size) →
      (∀ c ∈ ctx :: p.waiters, w.DispatchRefusal c (refusal c)) → 2 * (p.waiters.length + 1) ≤ fuel →
      w.connect x pool ctx fuel = w.afterRefusals x pool p refusal (ctx :: p.waiters) ∧
      (w.connect x pool ctx fuel).pools[pool]? =
        some { p with waiters := [], active := p.active - 1, failed := p.failed + (p.waiters.length + 1) } ∧
      (w.connect x pool ctx fuel).workers = w.workers) := by
  refine ⟨fun w x pool ctx p hp => ⟨fun fuel => (World.size_conns_connect_le x pool fuel).1 w ctx p hp,
    World.connect_fuel_stable hp⟩, fun w x pool ctx p refusal fuel hp ho hfresh hr hfuel => ?_⟩
  have hend := World.connect_of_refused (x := x) p.waiters rfl hp ho hfresh hr hfuel
  refine ⟨hend, ?_, ?_⟩
  · rw [hend, World.pools_afterRefusals hp]
    rfl
  · rw [hend]
    rfl

/-- Two refused attempts: a request from a context that is gone, and one waiter from another. -/
theorem refused_requester_and_waiter_end_balanced :
    ∃ (w : World) (p : Pool), w.pools[0]? = some p ∧ p.waiters = [⟨2⟩] ∧ p.Opening ∧
      (∀ i ∈ p.liveIds, i ≤ w.conns.size) ∧
      (∀ c ∈ [(⟨1⟩ : ContextId), ⟨2⟩], w.DispatchRefusal c (.contextNotFound c)) ∧
      w.connect {} 0 ⟨1⟩ 4 = w.afterRefusals {} 0 p (fun c => .contextNotFound c) [⟨1⟩, ⟨2⟩] ∧
      (w.connect {} 0 ⟨1⟩ 4).pools[0]? = some { p with waiters := [], active := 1, failed := 2 } ∧
      w.connect {} 0 ⟨1⟩ 5 = w.connect {} 0 ⟨1⟩ 4 := by
  let p : Pool :=
    { endpoint := { host := "mock", port := 4000 }, config := { maxSize := 2 }, transport := .memory 0,
      waiters := [⟨2⟩], active := 2 }
  let w : World := { config := {}, registry := { workerCount := 1 }, workers := #[], pools := #[p] }
  have ho : p.Opening := ⟨by decide, by decide, fun h => by cases h⟩
  have hfresh : ∀ i ∈ p.liveIds, i ≤ w.conns.size := by simp [p, Pool.liveIds]
  have hr : ∀ c ∈ [(⟨1⟩ : ContextId), ⟨2⟩], w.DispatchRefusal c (.contextNotFound c) := by
    intro c _
    exact .gone (by simp [w, Registry.workerOf, Registry.find?])
  obtain ⟨hend, hpool, -⟩ := connect_chain_ends_balanced.2 w {} 0 ⟨1⟩ p (fun c => .contextNotFound c) 4 rfl ho
    hfresh hr (by decide)
  exact ⟨w, p, rfl, rfl, ho, hfresh, hr, hend, hpool, (connect_chain_ends_balanced.1 w {} 0 ⟨1⟩ p rfl).2 1⟩

end Affinity
