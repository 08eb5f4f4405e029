import Affinity.Scenario.Run
/-!
Refused pool calls.

A pool refuses a request or the return of a connection before it changes anything: the checks
come first, and a refused call gives back an error and no new state. This module says exactly
when each call is refused and with which error, in the order the checks are made, and that a
script's refused acquire or release leaves the whole world as it was, so no handler is run or
queued for it.

* `World.AcquireRefusal`: the context is not live, or the pool has closed.
* `Pool.ReturnRefusal`: the connection is not live in the pool, another context holds it, it was
  already released, or it is no longer open.

Main statements: `Pool.checkIn_eq_error_iff`, `World.acquireOn_eq_error_iff`,
`World.checkIn_eq_error_iff`, `World.release_eq_error_iff`, and
`Scenario.failed_pool_calls_change_nothing`.
-/

namespace Affinity

namespace Pool

/-- Why a pool refuses to take connection `conn` back from `caller` (`none` when the pool takes
    it back itself), in the order it checks. -/
inductive ReturnRefusal (p : Pool) (conn : Nat) (caller : Option ContextId) (isOpen : Bool) :
    Error → Prop
  /-- The connection is not one of the pool's live connections. -/
  | notLive : p.leaseOf conn = none →
      ReturnRefusal p conn caller isOpen
        (.config ("connection " ++ toString conn ++ " does not belong to the pool for " ++
          p.endpoint.display))
  /-- Another context holds it. -/
  | foreign {holder c : ContextId} : p.leaseOf conn = some (.held holder) → caller = some c →
      holder ≠ c → ReturnRefusal p conn caller isOpen (.affinityViolation holder (some c))
  /-- It is idle or retired. -/
  | released {l : Lease} : p.leaseOf conn = some l → (l = .idle ∨ l = .retired) →
      ReturnRefusal p conn caller isOpen
        (.config ("connection " ++ toString conn ++ " was already released"))
  /-- Its holder returns it, but it is no longer open. -/
  | closed {holder : ContextId} : p.leaseOf conn = some (.held holder) →
      (caller = none ∨ caller = some holder) → isOpen = false →
      ReturnRefusal p conn caller isOpen .connectionClosed

variable {p : Pool} {e : Error}

/-- Admission fails only on a closed pool: an open pool always reuses, connects or queues. -/
theorem grant_eq_error_iff {ctx : ContextId} :
    p.grant ctx = .error e ↔ p.closed = true ∧ e = .poolClosed := by
  unfold grant
  cases hc : p.closed with
  | true => simp [eq_comm]
  | false =>
    simp only [Bool.false_eq_true, if_false, false_and, iff_false]
    split
    · simp
    · split
      · split <;> simp
      · simp

/-- Once the lease checks have passed, a return fails only for a connection that is no longer
    open. -/
theorem keepOrRetire_eq_error_iff {conn : Nat} {isOpen keepAlive : Bool} :
    p.keepOrRetire conn isOpen keepAlive = .error e ↔ isOpen = false ∧ e = .connectionClosed := by
  unfold keepOrRetire
  cases isOpen with
  | false => simp [eq_comm]
  | true =>
    simp only [Bool.not_true, Bool.false_eq_true, if_false, Bool.true_eq_false, false_and, iff_false]
    split
    · simp
    · split <;> simp

/-- A pool refuses the return of a connection exactly for the causes it checks, each with its
    own error. -/
theorem checkIn_eq_error_iff {conn : Nat} {caller : Option ContextId} {isOpen keepAlive : Bool} :
    p.checkIn conn caller isOpen keepAlive = .error e ↔ p.ReturnRefusal conn caller isOpen e := by
  constructor
  · intro h
    unfold checkIn at h
    split at h
    · cases h
      exact .notLive ‹_›
    · rename_i holder hl
      split at h
      · rename_i c
        split at h
        · cases h
          exact .foreign hl rfl ‹_›
        · obtain ⟨ho, rfl⟩ := keepOrRetire_eq_error_iff.1 h
          exact .closed hl (.inr (by simpa [eq_comm] using ‹¬holder ≠ c›)) ho
      · obtain ⟨ho, rfl⟩ := keepOrRetire_eq_error_iff.1 h
        exact .closed hl (.inl rfl) ho
    · rename_i l hne hl
      cases h
      cases l with
      | held holder => exact absurd rfl (hne holder)
      | idle => exact .released hl (.inl rfl)
      | retired => exact .released hl (.inr rfl)
  · intro h
    cases h with
    | notLive hl => simp [checkIn, hl]
    | foreign hl hc hne => subst hc; simp [checkIn, hl, hne]
    | released hl hl' => rcases hl' with rfl | rfl <;> simp [checkIn, hl]
    | closed hl hc ho =>
      rcases hc with rfl | rfl <;> simp [checkIn, hl, keepOrRetire_eq_error_iff.2 ⟨ho, rfl⟩]

end Pool

namespace World

/-- Whether connection `id` exists and is open. -/
def connOpen (w : World) (id : Nat) : Bool := ((w.conn? id).map (·.state.isOpen)).getD false

/-- Why a world turns away an acquire request of pool `pool` on behalf of `ctx`. -/
inductive AcquireRefusal (w : World) (pool : Nat) (ctx : ContextId) : Error → Prop
  /-- The context is not live. -/
  | dead : w.registry.contains ctx = false →
      AcquireRefusal w pool ctx (.unboundExecution "connection acquire")
  /-- The pool has closed. -/
  | closed {p : Pool} : w.registry.contains ctx = true → w.pools[pool]? = some p → p.closed = true →
      AcquireRefusal w pool ctx .poolClosed

variable {w : World} {x : Exec} {pool : Nat} {e : Error}

/-- An acquire request fails exactly when its context is not live or the pool has closed, and
    with that cause's error. -/
theorem acquireOn_eq_error_iff {ctx : ContextId} :
    w.acquireOn x pool ctx = .error e ↔ w.AcquireRefusal pool ctx e := by
  unfold acquireOn
  cases hr : w.registry.contains ctx with
  | false =>
    simp only [Bool.not_false, if_true, Except.error.injEq]
    constructor
    · rintro rfl
      exact .dead hr
    · rintro (h | h) <;> simp_all
  | true =>
    simp only [Bool.not_true, Bool.false_eq_true, if_false]
    cases hp : w.pools[pool]? with
    | none =>
      simp only [reduceCtorEq, false_iff]
      rintro (h | ⟨-, h, -⟩) <;> simp_all
    | some p =>
      simp only
      constructor
      · intro h
        split at h
        · rename_i e' hg
          cases h
          obtain ⟨hc, rfl⟩ := Pool.grant_eq_error_iff.1 hg
          exact .closed hr hp hc
        · split at h <;> cases h
      · rintro (h | ⟨-, hp', hc⟩)
        · simp_all
        · cases hp.symm.trans hp'
          simp [Pool.grant_eq_error_iff.2 ⟨hc, rfl⟩]

/-- A return fails exactly when the pool refuses it, whether a holder returns the connection or
    the pool takes it back itself. -/
theorem checkIn_eq_error_iff {id : Nat} {caller : Option ContextId} {fuel : Nat} :
    w.checkIn x pool id caller (fuel + 1) = .error e ↔
      ∃ p, w.pools[pool]? = some p ∧ p.ReturnRefusal id caller (w.connOpen id) e := by
  rw [World.checkIn]
  cases hp : w.pools[pool]? with
  | none => simp
  | some p =>
    cases hc : w.conn? id with
    | none =>
      simp only [connOpen, hc, Option.map_none, Option.getD_none, Option.some.injEq, exists_eq_left']
      constructor
      · intro h
        split at h
        · cases h
          exact Pool.checkIn_eq_error_iff.1 ‹_›
        · cases h
      · intro h
        rw [Pool.checkIn_eq_error_iff.2 h]
    | some c =>
      simp only [connOpen, hc, Option.map_some, Option.getD_some, Option.some.injEq, exists_eq_left']
      constructor
      · intro h
        split at h
        · cases h
          exact Pool.checkIn_eq_error_iff.1 ‹_›
        · -- an accepted return hands the connection on, keeps it or closes it: no error
          split at h <;> cases h
      · intro h
        rw [Pool.checkIn_eq_error_iff.2 h]

/-- A release fails exactly when there is no current context, or when the pool refuses the
    return from it. -/
theorem release_eq_error_iff {id : Nat} :
    w.release x pool id = .error e ↔
      (x.ctx = none ∧ e = .unboundExecution "connection release") ∨
      ∃ c, x.ctx = some c ∧ ∃ p, w.pools[pool]? = some p ∧ p.ReturnRefusal id (some c) (w.connOpen id) e := by
  unfold release
  cases hx : x.ctx with
  | none => simp [eq_comm]
  | some c =>
    have hfuel : w.poolFuel pool = (((w.pools[pool]?.map (·.waiters.length)).getD 0) * 2 + 3) + 1 := rfl
    simp only [hfuel, checkIn_eq_error_iff, reduceCtorEq, false_and, Option.some.injEq, exists_eq_left',
      false_or]

end World

namespace Scenario

/-! ### Running a step's computation

Each lemma runs one computation of a step on a world, case by case, so that a step is
evaluated by rewriting alone. -/

section Run

variable {α β : Type} {w w₁ : World} {m : StepM α} {f : α → StepM β} {a : α} {r : Reply}

theorem run_bind_ok (h : (ExceptT.run m).run w = (.ok a, w₁)) :
    (ExceptT.run (m >>= f)).run w = (ExceptT.run (f a)).run w₁ := by
  simp [ExceptT.run_bind, h]
  rfl

theorem run_bind_error (h : (ExceptT.run m).run w = (.error r, w₁)) :
    (ExceptT.run (m >>= f)).run w = (.error r, w₁) := by
  simp [ExceptT.run_bind, h]
  rfl

theorem finish_bind_ok {f : α → StepM Reply} (h : (ExceptT.run m).run w = (.ok a, w₁)) :
    StepM.finish (m >>= f) w = StepM.finish (f a) w₁ := by
  unfold StepM.finish
  rw [run_bind_ok h]

theorem finish_bind_error {f : α → StepM Reply} (h : (ExceptT.run m).run w = (.error r, w₁)) :
    StepM.finish (m >>= f) w = (r, w₁) := by
  unfold StepM.finish
  rw [run_bind_error h]
  rfl

theorem run_get : (ExceptT.run (get : StepM World)).run w = (.ok w, w) := rfl

theorem finish_pure : StepM.finish (pure r) w = (r, w) := rfl

theorem finish_fail (e : Error) : StepM.finish (fail e) w = (.failed e, w) := rfl

theorem run_poolAt_some {i : Nat} {p : Pool} (h : w.pools[i]? = some p) :
    (ExceptT.run (poolAt i)).run w = (.ok p, w) := by
  unfold poolAt
  rw [run_bind_ok run_get, h]
  rfl

theorem run_poolAt_none {i : Nat} (h : w.pools[i]? = none) :
    (ExceptT.run (poolAt i)).run w = (.error (.refused "unknown pool"), w) := by
  unfold poolAt
  rw [run_bind_ok run_get, h]
  rfl

theorem run_deliveredConn_of {id : Nat} {c : Connection} (h : w.conn? id = some c)
    (hd : w.delivered.contains id = true) : (ExceptT.run (deliveredConn id)).run w = (.ok c, w) := by
  unfold deliveredConn
  rw [run_bind_ok run_get, h]
  simp only [hd, if_true]
  rfl

/-- A connection the script was never given is refused, with the world unchanged. -/
theorem run_deliveredConn_refused {id : Nat} (h : ∀ c, w.conn? id = some c → w.delivered.contains id = false) :
    (ExceptT.run (deliveredConn id)).run w =
      (.error (.refused ("connection " ++ toString id ++ " was never delivered")), w) := by
  unfold deliveredConn
  rw [run_bind_ok run_get]
  cases hc : w.conn? id with
  | none => rfl
  | some c =>
    simp only [h c hc, Bool.false_eq_true, if_false]
    rfl

theorem run_knownContext_of {n : Nat} (h : w.known.contains n = true) :
    (ExceptT.run (knownContext n)).run w = (.ok ⟨n⟩, w) := by
  unfold knownContext
  rw [run_bind_ok run_get]
  simp only [h, if_true]
  rfl

theorem run_knownContext_refused {n : Nat} (h : w.known.contains n = false) :
    (ExceptT.run (knownContext n)).run w =
      (.error (.refused ("context " ++ toString n ++ " was never created")), w) := by
  unfold knownContext
  rw [run_bind_ok run_get]
  simp only [h, Bool.false_eq_true, if_false]
  rfl

theorem finish_apply_ok :
    StepM.finish (do apply (.ok w₁); pure Reply.ok) w = (.ok, w₁) := rfl

theorem finish_apply_error (e : Error) :
    StepM.finish (do apply (.error e); pure Reply.ok) w = (.failed e, w) := rfl

/-- A call carried out on the world fails with `e` exactly when the call does, and then the
    world stays as it was. -/
theorem finish_apply_eq_failed_iff {c : Except Error World} {e : Error} :
    StepM.finish (do apply c; pure Reply.ok) w = (.failed e, w₁) ↔ w₁ = w ∧ c = .error e := by
  cases c with
  | ok w₂ => rw [finish_apply_ok]; simp
  | error e₂ => rw [finish_apply_error]; simp [eq_comm, and_comm]

end Run

/-! ### Refused calls of a script -/

variable {fs : FileStore} {exec : Exec → Op → World → Reply × World} {x : Exec} {w w' : World}
  {pool : Nat} {e : Error}

/-- An acquire from the current context fails exactly when there is none, or when the pool
    refuses it; then nothing changes. -/
theorem finish_acquire_eq_failed_iff :
    (step fs exec x (.acquire pool)).finish w = (.failed e, w') ↔
      w' = w ∧ (w.pools[pool]?).isSome ∧
        (x.ctx = none ∧ e = .unboundExecution "connection acquire" ∨
         ∃ c, x.ctx = some c ∧ w.AcquireRefusal pool c e) := by
  simp only [step]
  cases hp : w.pools[pool]? with
  | none => simp [finish_bind_error (run_poolAt_none hp)]
  | some p =>
    rw [finish_bind_ok (run_poolAt_some hp)]
    cases hx : x.ctx with
    | none => simp [finish_fail, eq_comm, and_comm]
    | some c =>
      simp only [finish_bind_ok run_get, finish_apply_eq_failed_iff, World.acquireOn_eq_error_iff]
      simp

/-- An acquire on behalf of a context fails exactly when that context is not live or the pool
    has closed; then nothing changes. -/
theorem finish_acquireOn_eq_failed_iff {n : Nat} :
    (step fs exec x (.acquireOn pool n)).finish w = (.failed e, w') ↔
      w' = w ∧ (w.pools[pool]?).isSome ∧ w.known.contains n ∧ w.AcquireRefusal pool ⟨n⟩ e := by
  simp only [step]
  cases hp : w.pools[pool]? with
  | none => simp [finish_bind_error (run_poolAt_none hp)]
  | some p =>
    rw [finish_bind_ok (run_poolAt_some hp)]
    cases hk : w.known.contains n with
    | false => simp [finish_bind_error (run_knownContext_refused hk)]
    | true =>
      simp only [finish_bind_ok (run_knownContext_of hk), finish_bind_ok run_get,
        finish_apply_eq_failed_iff, World.acquireOn_eq_error_iff]
      simp

/-- A release fails exactly when there is no current context or the pool refuses the return;
    then nothing changes. -/
theorem finish_release_eq_failed_iff {id : Nat} :
    (step fs exec x (.release pool id)).finish w = (.failed e, w') ↔
      w' = w ∧ (w.pools[pool]?).isSome ∧ (w.conn? id).isSome ∧ w.delivered.contains id ∧
        (x.ctx = none ∧ e = .unboundExecution "connection release" ∨
         ∃ c, x.ctx = some c ∧ ∃ p, w.pools[pool]? = some p ∧
           p.ReturnRefusal id (some c) (w.connOpen id) e) := by
  simp only [step]
  cases hp : w.pools[pool]? with
  | none => simp [finish_bind_error (run_poolAt_none hp)]
  | some p =>
    rw [finish_bind_ok (run_poolAt_some hp)]
    cases hc : w.conn? id with
    | none =>
      have hnone : ∀ c, w.conn? id = some c → w.delivered.contains id = false := by
        intro c h
        simp [hc] at h
      simp only [finish_bind_error (run_deliveredConn_refused hnone)]
      simp
    | some k =>
      cases hd : w.delivered.contains id with
      | false =>
        simp only [finish_bind_error (run_deliveredConn_refused (fun c _ => hd))]
        simp
      | true =>
        simp only [finish_bind_ok (run_deliveredConn_of hc hd), finish_bind_ok run_get,
          finish_apply_eq_failed_iff, World.release_eq_error_iff]
        simp [hp]

/-- Failed pool calls change nothing. A script's acquire (from its current context or on behalf
    of another), and its release, fail with an error of the library exactly for the causes the
    pool checks, in the order it checks them and each with its own error; and then the world is
    left as it was: the pools with their queues, leases and counters, the connections with their
    owners, generations and callbacks, and every worker's queue, so no handler runs or is queued.
    A return the pool makes itself is refused for the same causes. -/
theorem failed_pool_calls_change_nothing (fs : FileStore) (exec : Exec → Op → World → Reply × World)
    (x : Exec) (w w' : World) (pool : Nat) (e : Error) :
    ((step fs exec x (.acquire pool)).finish w = (.failed e, w') ↔
      w' = w ∧ (w.pools[pool]?).isSome ∧
        (x.ctx = none ∧ e = .unboundExecution "connection acquire" ∨
         ∃ c, x.ctx = some c ∧ w.AcquireRefusal pool c e)) ∧
    (∀ n, (step fs exec x (.acquireOn pool n)).finish w = (.failed e, w') ↔
      w' = w ∧ (w.pools[pool]?).isSome ∧ w.known.contains n ∧ w.AcquireRefusal pool ⟨n⟩ e) ∧
    (∀ id, (step fs exec x (.release pool id)).finish w = (.failed e, w') ↔
      w' = w ∧ (w.pools[pool]?).isSome ∧ (w.conn? id).isSome ∧ w.delivered.contains id ∧
        (x.ctx = none ∧ e = .unboundExecution "connection release" ∨
         ∃ c, x.ctx = some c ∧ ∃ p, w.pools[pool]? = some p ∧
           p.ReturnRefusal id (some c) (w.connOpen id) e)) ∧
    (∀ id caller fuel, w.checkIn x pool id caller (fuel + 1) = .error e ↔
      ∃ p, w.pools[pool]? = some p ∧ p.ReturnRefusal id caller (w.connOpen id) e) :=
  ⟨finish_acquire_eq_failed_iff, fun _ => finish_acquireOn_eq_failed_iff,
    fun _ => finish_release_eq_failed_iff, fun _ _ _ => World.checkIn_eq_error_iff⟩

end Scenario

end Affinity
