import Affinity.Proofs.Pool.Steps
/-!
Slot accounting of a pool under concurrent callers.

In every reachable state (`Reachable.slotInv`) the pool's slot counter is the number of live
connections plus the requests admitted for a connection their thread has not recorded yet, and
it never exceeds the pool's size. The live connections are exactly the opened ones whose thread
is not done, each once, and every connection's thread, lifecycle state and close hook fit
together (`Conn.Fits`): the hook stays set, and the connection open or closing, until the connect
fails (the hook is dropped) or the driver finishes the close (the hook is taken). So the
connections that are not closed are at most as many as the counter says.

A step takes a connection out of `live` only as the critical section of its failed connect or
of its close hook, with the counter at least one (`SlotInv.shape`). A connection that is done
stays done and its number is never given again, so along every run the slot of each connection
comes back once if its thread is done and never otherwise. `slot_accounting` gathers all this.
-/

namespace Affinity

namespace PoolSystem

/-- Whether the thread that opened a connection still holds its close hook. -/
def Stage.holdsHook : Stage → Bool
  | .spawning | .dialing | .driving => true
  | _ => false

namespace Conn

/-- The close hook is set, and the connection is not closed, exactly while its thread holds the
    hook. -/
def Fits (k : Conn) : Prop :=
  k.hook = k.stage.holdsHook ∧ (k.state = .closed ↔ k.stage.holdsHook = false)

variable {k : Conn}

theorem fail_fits (k : Conn) (e : Option Error) : (k.fail e).Fits := by
  simp [fail, Fits, Stage.holdsHook]

theorem Fits.withStage (h : k.Fits) {st : Stage} (hs : st.holdsHook = k.stage.holdsHook) :
    ({ k with stage := st } : Conn).Fits := by
  simpa [Fits, hs] using h

theorem Fits.withOwner (h : k.Fits) (o : ContextId) : ({ k with owner := o } : Conn).Fits := h

theorem Fits.close (h : k.Fits) : k.close.Fits := by
  unfold Conn.close
  split
  · rename_i ho
    have : k.stage.holdsHook = true := by
      cases hh : k.stage.holdsHook
      · simp [h.2.2 hh, ConnectionState.isOpen] at ho
      · rfl
    simp [Fits, h.1, this]
  · exact h

@[simp] theorem close_stage (k : Conn) : k.close.stage = k.stage := by
  unfold Conn.close; split <;> rfl

theorem Fits.activate (h : k.Fits) (hs : k.stage = .dialing) : k.activate.Fits := by
  have hc : k.state ≠ .closed := fun hc => by simpa [hs, Stage.holdsHook] using h.2.1 hc
  have hk : k.hook = true := by simpa [hs, Stage.holdsHook] using h.1
  unfold Conn.activate Fits
  split <;> simp_all [Stage.holdsHook]

theorem Fits.finishClose (h : k.Fits) (hs : k.stage = .driving) :
    k.finishClose.Fits ∧ k.finishClose.stage = .freeing := by
  have hc : k.state ≠ .closed := fun hc => by simpa [hs, Stage.holdsHook] using h.2.1 hc
  have hk : k.hook = true := by simpa [hs, Stage.holdsHook] using h.1
  simp [Conn.finishClose, Fits, Stage.holdsHook, hc, hk]

theorem Fits.stage_ne_done (h : k.Fits) (hc : k.state ≠ .closed) : k.stage ≠ .done := by
  intro hd
  exact hc (h.2.2 (by simp [hd, Stage.holdsHook]))

end Conn

namespace Sys

/-- The slot accounting of a pool and its threads. -/
structure SlotInv (s : Sys) : Prop where
  tracked : s.Tracked
  slots : s.pool.active = s.pool.live.length + s.admitted.length
  bound : s.pool.active ≤ s.pool.config.maxSize
  nodup : s.pool.liveIds.Nodup
  live : ∀ c, c ∈ s.pool.liveIds ↔ ∃ k, s.conn? c = some k ∧ k.stage ≠ .done
  fits : ∀ c k, s.conn? c = some k → k.Fits
  count : s.pool.live.length = s.conns.countP (·.stage != .done)

variable {s s' : Sys}

theorem slotInv_start (endpoint : Endpoint) (config : PoolConfig) (transport : PoolTransport) :
    SlotInv (start endpoint config transport) := by
  refine ⟨rfl, rfl, Nat.zero_le _, List.nodup_nil, fun c => ?_, fun c k hk => ?_, rfl⟩
  · cases c <;> simp [start, conn?, Pool.liveIds]
  · cases c <;> simp [start, conn?] at hk

theorem length_live (p : Pool) : p.live.length = p.liveIds.length := by
  simp [Pool.liveIds]

/-- The accounting carries over to a state with the same connections and live connections, once
    the counter and the queues are shown to agree. -/
theorem SlotInv.of_counts {t : Sys} (h : SlotInv s) (hc : t.conns = s.conns)
    (hl : t.pool.liveIds = s.pool.liveIds) (ht : t.Tracked)
    (hs : t.pool.active = t.pool.live.length + t.admitted.length)
    (hb : t.pool.active ≤ t.pool.config.maxSize) : SlotInv t := by
  have hconn : ∀ c, t.conn? c = s.conn? c := conn?_of_conns hc
  refine ⟨ht, hs, hb, hl ▸ h.nodup, fun c => ?_, fun c k hk => h.fits c k (hconn c ▸ hk), ?_⟩
  · rw [hl, hconn]; exact h.live c
  · rw [length_live, hl, ← length_live, hc]; exact h.count

/-- The accounting only reads the queues, the counter, the live connections, the size and the
    connections. -/
theorem SlotInv.frame {t : Sys} (h : SlotInv s) (hq : t.queue = s.queue) (ha : t.admitted = s.admitted)
    (hc : t.conns = s.conns) (hw : t.pool.waiters = s.pool.waiters) (hn : t.pool.active = s.pool.active)
    (hl : t.pool.liveIds = s.pool.liveIds) (hm : t.pool.config = s.pool.config) : SlotInv t := by
  refine h.of_counts hc hl ?_ ?_ ?_
  · unfold Tracked; rw [hq, hw]; exact h.tracked
  · rw [hn, ha, length_live, hl, ← length_live]; exact h.slots
  · rw [hn, hm]; exact h.bound

theorem SlotInv.modifyConn {c : Nat} {k : Conn} {f : Conn → Conn} (h : SlotInv s)
    (hk : s.conn? c = some k) (hf : (f k).Fits) (hd : (f k).stage = .done ↔ k.stage = .done) :
    SlotInv (s.modifyConn c f) := by
  refine ⟨h.tracked, h.slots, h.bound, h.nodup, fun c' => ?_, fun c' k' hk' => ?_, ?_⟩
  · rw [pool_modifyConn, h.live c', conn?_modifyConn]
    split
    · subst c'; simp [hk, hd]
    · rfl
  · rw [conn?_modifyConn] at hk'
    split at hk'
    · subst c'; rw [hk] at hk'; cases hk'; exact hf
    · exact h.fits c' k' hk'
  · have := countP_modifyConn s (·.stage != .done) f hk
    have h2 : ((f k).stage != .done) = (k.stage != .done) := by rw [Bool.eq_iff_iff]; simp [hd]
    rw [h2] at this
    have := h.count
    simp only [pool_modifyConn] at this ⊢
    omega

/-- An update that keeps every connection's fit and whether its thread is done keeps the
    accounting, whether or not the connection exists. -/
theorem SlotInv.modifyConn_of_forall {c : Nat} {f : Conn → Conn} (h : SlotInv s)
    (hf : ∀ k, s.conn? c = some k → (f k).Fits ∧ (f k).stage = k.stage) :
    SlotInv (s.modifyConn c f) := by
  cases hk : s.conn? c with
  | none => exact h.frame rfl rfl (conns_modifyConn_of_none f hk) rfl rfl rfl rfl
  | some k => exact h.modifyConn hk (hf k hk).1 (by rw [(hf k hk).2])

/-- Giving back the slot of a connection whose thread failed its connect or finished its close:
    the thread is done, the connection leaves `live`, and the counter is one less. -/
theorem SlotInv.giveBack {c : Nat} {k : Conn} (h : SlotInv s) (hk : s.conn? c = some k)
    (hh : k.stage.holdsHook = false) (hd : k.stage ≠ .done) {q : Pool}
    (hw : q.waiters = s.pool.waiters) (hn : q.active = s.pool.active - 1)
    (hl : q.liveIds = s.pool.liveIds.filter (· != c)) (hm : q.config = s.pool.config) :
    SlotInv { s.modifyConn c ({ · with stage := .done }) with pool := q } := by
  have hc : c ∈ s.pool.liveIds := (h.live c).2 ⟨k, hk, hd⟩
  have hlen : q.live.length + 1 = s.pool.live.length := by
    rw [length_live, hl, ← Pool.liveIds_forget, ← length_live]
    exact Pool.length_live_forget _ _ h.nodup hc
  have hcount := countP_modifyConn s (·.stage != .done) ({ · with stage := .done }) hk
  have hconn := conn?_of_conns (s := s.modifyConn c ({ · with stage := .done }))
    (t := { s.modifyConn c ({ · with stage := .done }) with pool := q }) rfl
  refine ⟨?_, ?_, ?_, ?_, fun c' => ?_, fun c' k' hk' => ?_, ?_⟩
  · unfold Tracked; rw [hw]; exact h.tracked
  · have := h.slots
    show q.active = q.live.length + s.admitted.length
    omega
  · have := h.bound
    show q.active ≤ q.config.maxSize
    rw [hm]; omega
  · show q.liveIds.Nodup
    rw [hl]; exact h.nodup.filter _
  · show c' ∈ q.liveIds ↔ _
    rw [hl, List.mem_filter, hconn, conn?_modifyConn]
    split
    · subst c'; simp [hk]
    · rename_i hne
      simp only [bne_iff_ne, ne_eq, hne, not_false_eq_true, and_true]
      exact h.live c'
  · rw [hconn, conn?_modifyConn] at hk'
    split at hk'
    · subst c'
      rw [hk] at hk'
      cases hk'
      exact (h.fits c k hk).withStage (by rw [hh]; rfl)
    · exact h.fits c' k' hk'
  · have := h.count
    simp [hd] at hcount
    show q.live.length = (s.modifyConn c _).conns.countP _
    omega

/-- Handing a freed slot to the oldest waiting request keeps the accounting: the counter and the
    admitted requests grow together. `t` is the state the pool decided in, `p` the pool it
    decided on, and `u` the state that carries out the decision. -/
theorem SlotInv.admitNext {t u : Sys} {next : Option ContextId} {p : Pool} (h : SlotInv t)
    (hn : t.pool.nextWaiter = (next, p)) (hq : u.queue = t.queue) (ha : u.admitted = t.admitted)
    (hc : u.conns = t.conns) (hw : u.pool.waiters = p.waiters) (hac : u.pool.active = p.active)
    (hl : u.pool.liveIds = p.liveIds) (hm : u.pool.config = p.config) : SlotInv (u.admitNext next) := by
  have ht : (u.admitNext next).Tracked := tracked_admitNext (by rw [hq]; exact h.tracked) hn hw
  obtain ⟨rfl, rfl, -⟩ | ⟨w, ws, -, hlt, hws, rfl, rfl⟩ := Pool.nextWaiter_cases hn
  · -- no one waits for the slot: nothing is admitted
    have e2 : u.pool.live.length = t.pool.live.length := by rw [length_live, hl, ← length_live]
    refine h.of_counts hc hl ht ?_ ?_
    · simp only [Sys.admitNext, Option.isSome_none, Bool.false_eq_true, ↓reduceIte, List.length_nil,
        List.append_nil, hac, ha, e2]
      exact h.slots
    · rw [pool_admitNext, hac, hm]; exact h.bound
  · -- the oldest waiting request takes the slot
    obtain ⟨r, rest, hr⟩ : ∃ r rest, t.queue = r :: rest := by
      cases hqs : t.queue with
      | nil => rw [h.tracked.nil_iff.1 hqs] at hws; cases hws
      | cons r rest => exact ⟨r, rest, rfl⟩
    have e1 : u.pool.active = t.pool.active + 1 := hac
    have e2 : u.pool.live.length = t.pool.live.length := by rw [length_live, hl, ← length_live]
    refine h.of_counts hc hl ht ?_ ?_
    · have := h.slots
      simp only [Sys.admitNext, Option.isSome_some, ↓reduceIte, hq, hr, List.take_succ_cons,
        List.take_zero, List.length_append, List.length_cons, List.length_nil, ha, e1, e2]
      omega
    · rw [pool_admitNext, e1, hm]; exact hlt

/-! ### Each step keeps the accounting -/

theorem SlotInv.acquire {ctx : ContextId} (h : SlotInv s) (hs : s.acquire ctx = .ok s') : SlotInv s' := by
  obtain ⟨-, -, ⟨c, rest, -, rfl⟩ | ⟨-, hlt, ⟨q, rest, -, rfl⟩ | ⟨-, rfl⟩⟩ | ⟨-, -, rfl⟩⟩ :=
    acquire_cases h.tracked hs
  · -- an idle connection is handed over: only its lease changes
    exact h.of_counts rfl (Pool.liveIds_setLease _ _ _) (by simpa [Tracked] using h.tracked)
      (by simpa using h.slots) (by simpa using h.bound)
  · -- the oldest waiter is admitted, and the request waits behind the others
    refine h.of_counts rfl rfl (by simp [Tracked]) ?_ hlt
    have := h.slots
    simp only [List.length_append, List.length_singleton]
    omega
  · refine h.of_counts rfl rfl h.tracked ?_ hlt
    have := h.slots
    simp only [List.length_append, List.length_singleton]
    omega
  · exact h.of_counts rfl rfl (by simpa [Tracked] using h.tracked) h.slots h.bound

theorem SlotInv.checkIn {c : Nat} {caller : Option ContextId} (h : SlotInv s)
    (hs : s.checkIn c caller = .ok s') : SlotInv s' := by
  obtain ⟨-, ⟨-, rfl⟩ | ⟨-, -, ⟨q, rest, -, rfl⟩ | ⟨-, rfl⟩⟩⟩ := checkIn_cases h.tracked hs
  all_goals
    refine h.of_counts rfl (Pool.liveIds_setLease _ _ _) ?_ (by simpa using h.slots)
      (by simpa using h.bound)
  · simpa [Tracked] using h.tracked
  · rfl
  · simpa [Tracked] using h.tracked

theorem SlotInv.release {ctx : ContextId} {c : Nat} (h : SlotInv s) (hs : s.release ctx c = .ok s') :
    SlotInv s' := by
  obtain ⟨t, ht, rfl⟩ := release_cases hs
  exact (h.checkIn ht).frame rfl rfl rfl rfl rfl rfl rfl

theorem SlotInv.insert {i : Nat} (h : SlotInv s) (hs : s.insert i = some s') : SlotInv s' := by
  obtain ⟨r, hr, rfl⟩ := Option.map_eq_some_iff.1 hs
  have hi : i < s.admitted.length := (List.getElem?_eq_some_iff.1 hr).1
  -- the new connection's number was never given
  have hnew : s.conns.length + 1 ∉ s.pool.liveIds := by
    intro hm
    obtain ⟨k, hk, -⟩ := (h.live _).1 hm
    simp [conn?] at hk
  have hconn := conn?_append_new (s := s)
    (t := { s with admitted := s.admitted.eraseIdx i, conns := s.conns ++ [{ req := r, owner := r.ctx }],
                   pool := s.pool.track (s.conns.length + 1) r.ctx }) rfl
  refine ⟨h.tracked, ?_, h.bound, ?_, fun c => ?_, fun c k hk => ?_, ?_⟩
  · have := h.slots
    have : 0 < s.admitted.length := by omega
    simp only [Pool.track_active, Pool.length_live_track, List.length_eraseIdx_of_lt hi]
    omega
  · rw [Pool.liveIds_track, List.nodup_append]
    refine ⟨h.nodup, by simp, fun a ha b hb => ?_⟩
    rw [List.mem_singleton] at hb
    subst hb
    exact fun e => hnew (e ▸ ha)
  · rw [Pool.liveIds_track, List.mem_append, hconn]
    by_cases hc : c = s.conns.length + 1
    · simp [hc]
    · simp only [hc, ↓reduceIte, List.mem_singleton, or_false]
      exact h.live c
  · rw [hconn] at hk
    split at hk
    · cases hk
      simp [Conn.Fits, Stage.holdsHook]
    · exact h.fits c k hk
  · simp only [Pool.length_live_track, List.countP_append]
    rw [h.count]
    simp

theorem SlotInv.spawn {c : Nat} (h : SlotInv s) (hs : s.spawn c = some s') : SlotInv s' := by
  obtain ⟨k, hk, hst, ⟨-, rfl⟩ | ⟨-, rfl⟩⟩ := spawn_cases hs
  · exact h.modifyConn hk ((h.fits c k hk).withStage (by rw [hst]; rfl)) (by simp [hst])
  · exact h.modifyConn hk (k.fail_fits none) (by simp [Conn.fail, hst])

theorem SlotInv.dial {c : Nat} {failure : Option String} (h : SlotInv s)
    (hs : s.dial c failure = some s') : SlotInv s' := by
  obtain ⟨k, hk, hst, ⟨-, rfl⟩ | ⟨msg, -, rfl⟩⟩ := dial_cases hs
  · -- answering the requester touches no connection; then the driver starts
    have h' : SlotInv ({ s with pool := { s.pool with created := s.pool.created + 1 } }.answer k.req
        (if s.pool.closed then .error .poolClosed else .ok c)) :=
      h.frame rfl rfl rfl rfl rfl rfl rfl
    exact h'.modifyConn hk ((h.fits c k hk).activate hst) (by simp [Conn.activate, hst])
  · exact h.modifyConn hk (k.fail_fits _) (by simp [Conn.fail, hst])

theorem SlotInv.settle {c : Nat} (h : SlotInv s) (hs : s.settle c = some s') : SlotInv s' := by
  obtain ⟨k, e, hk, hst, rfl⟩ := settle_cases hs
  have hc : c ∈ s.pool.liveIds := (h.live c).2 ⟨k, hk, by simp [hst]⟩
  have hg := h.giveBack hk (by rw [hst]; rfl) (by simp [hst]) (q := s.pool.forget c) rfl rfl
    (Pool.liveIds_forget _ _) rfl
  rw [Pool.dropFailed_of_mem hc]
  cases e <;> exact hg.admitNext rfl rfl rfl rfl rfl rfl rfl rfl

theorem SlotInv.free {c : Nat} (h : SlotInv s) (hs : s.free c = some s') : SlotInv s' := by
  obtain ⟨k, hk, hst, rfl⟩ := free_cases hs
  have hc : c ∈ s.pool.liveIds := (h.live c).2 ⟨k, hk, by simp [hst]⟩
  have hg := h.giveBack hk (by rw [hst]; rfl) (by simp [hst])
    (q := { s.pool.forget c with available := s.pool.available.filter (· != c) }) rfl rfl
    (Pool.liveIds_forget _ _) rfl
  rw [Pool.freeSlot_of_mem hc]
  exact hg.admitNext rfl rfl rfl rfl rfl rfl rfl rfl

theorem SlotInv.finish {c : Nat} (h : SlotInv s) (hs : s.finish c = some s') : SlotInv s' := by
  obtain ⟨k, hk, hst, rfl⟩ := finish_cases hs
  obtain ⟨hf, hfs⟩ := (h.fits c k hk).finishClose hst
  exact h.modifyConn hk hf (by simp [hfs, hst])

theorem SlotInv.handOff {i : Nat} (h : SlotInv s) (hs : s.handOff i = some s') : SlotInv s' := by
  obtain ⟨c, r, -, hs⟩ := handOff_cases hs
  -- re-pinning the connection and dropping the decided hand-off touch no slot
  have ht : SlotInv { s.modifyConn c ({ · with owner := r.ctx }) with
      handOffs := s.handOffs.eraseIdx i, pool := { s.pool with reused := s.pool.reused + 1 } } :=
    (h.modifyConn_of_forall fun k hk => ⟨(h.fits c k hk).withOwner r.ctx, rfl⟩).frame
      rfl rfl rfl rfl rfl rfl rfl
  obtain ⟨-, rfl⟩ | ⟨-, hck | ⟨e, -, rfl⟩⟩ := hs
  · exact ht.frame rfl rfl rfl rfl rfl rfl rfl
  · exact ht.checkIn hck
  · exact ht

theorem SlotInv.closeConn {c : Nat} (h : SlotInv s) : SlotInv (s.modifyConn c Conn.close) :=
  h.modifyConn_of_forall fun k hk => ⟨(h.fits c k hk).close, k.close_stage⟩

theorem SlotInv.closePool (h : SlotInv s) (hs : s.closePool = some s') : SlotInv s' := by
  obtain ⟨-, rfl⟩ := closePool_cases hs
  exact h.of_counts rfl rfl rfl h.slots h.bound

theorem SlotInv.step {a : Action} (h : SlotInv s) (hs : s.step a = some s') : SlotInv s' := by
  cases a with
  | acquire ctx => exact h.acquire (ok_of_toOption hs)
  | release ctx c => exact h.release (release_of_step hs)
  | closeConn c =>
    obtain rfl := closeConn_of_step hs
    exact h.closeConn
  | closePool => exact h.closePool hs
  | insert i => exact h.insert hs
  | spawn c => exact h.spawn hs
  | dial c failure => exact h.dial hs
  | settle c => exact h.settle hs
  | finish c => exact h.finish hs
  | free c => exact h.free hs
  | handOff i => exact h.handOff hs
  | retire i =>
    obtain ⟨c, -, rfl⟩ := Option.map_eq_some_iff.1 hs
    exact h.closeConn.frame rfl rfl rfl rfl rfl rfl rfl
  | notify i =>
    obtain ⟨r, -, rfl⟩ := Option.map_eq_some_iff.1 hs
    dsimp only
    split <;> exact h.frame rfl rfl rfl rfl rfl rfl rfl
  | deliver i =>
    obtain ⟨⟨r, a⟩, -, rfl⟩ := Option.map_eq_some_iff.1 hs
    exact h.frame rfl rfl rfl rfl rfl rfl rfl
  | destroy ctx => cases hs; exact h.frame rfl rfl rfl rfl rfl rfl rfl
  | shutdown => cases hs; exact h.frame rfl rfl rfl rfl rfl rfl rfl

/-! ### What a step does to the live connections -/

/-- A step that opens no connection and takes none out of `live`. -/
def Keeps (s s' : Sys) : Prop := s'.conns.length = s.conns.length ∧ s'.pool.liveIds = s.pool.liveIds

theorem Keeps.trans {t : Sys} (h₁ : Keeps s t) (h₂ : Keeps t s') : Keeps s s' :=
  ⟨h₂.1.trans h₁.1, h₂.2.trans h₁.2⟩

theorem keeps_modifyConn (c : Nat) (f : Conn → Conn) : Keeps s (s.modifyConn c f) := ⟨by simp, rfl⟩

theorem keeps_acquire {ctx : ContextId} (ht : s.Tracked) (hs : s.acquire ctx = .ok s') : Keeps s s' := by
  obtain ⟨-, -, ⟨c, rest, -, rfl⟩ | ⟨-, -, ⟨q, rest, -, rfl⟩ | ⟨-, rfl⟩⟩ | ⟨-, -, rfl⟩⟩ :=
    acquire_cases ht hs
  · exact ⟨rfl, Pool.liveIds_setLease _ _ _⟩
  all_goals exact ⟨rfl, rfl⟩

theorem keeps_checkIn {c : Nat} {caller : Option ContextId} (ht : s.Tracked)
    (hs : s.checkIn c caller = .ok s') : Keeps s s' := by
  obtain ⟨-, ⟨-, rfl⟩ | ⟨-, -, ⟨q, rest, -, rfl⟩ | ⟨-, rfl⟩⟩⟩ := checkIn_cases ht hs
  all_goals exact ⟨rfl, Pool.liveIds_setLease _ _ _⟩

/-- Every step opens one connection (which becomes live), gives back the slot of one whose
    thread failed its connect or finished its close (which leaves `live`), or neither. -/
theorem SlotInv.shape {a : Action} (h : SlotInv s) (hs : s.step a = some s') :
    Keeps s s' ∨
    (s'.conns.length = s.conns.length + 1 ∧ s'.pool.liveIds = s.pool.liveIds ++ [s.conns.length + 1]) ∨
    (∃ c k, s.conn? c = some k ∧
      ((∃ e, a = .settle c ∧ k.stage = .failing e) ∨ (a = .free c ∧ k.stage = .freeing)) ∧
      s'.conns.length = s.conns.length ∧ s'.pool.liveIds = s.pool.liveIds.filter (· != c)) := by
  cases a with
  | acquire ctx => exact .inl (keeps_acquire h.tracked (ok_of_toOption hs))
  | release ctx c =>
    obtain ⟨t, ht, rfl⟩ := release_cases (release_of_step hs)
    exact .inl ((keeps_checkIn h.tracked ht).trans ⟨rfl, rfl⟩)
  | closeConn c =>
    obtain rfl := closeConn_of_step hs
    exact .inl (keeps_modifyConn c _)
  | closePool =>
    obtain ⟨-, rfl⟩ := closePool_cases hs
    exact .inl ⟨rfl, rfl⟩
  | insert i =>
    obtain ⟨r, -, rfl⟩ := Option.map_eq_some_iff.1 hs
    exact .inr (.inl ⟨by simp, Pool.liveIds_track _ _ _⟩)
  | spawn c =>
    obtain ⟨k, -, -, ⟨-, rfl⟩ | ⟨-, rfl⟩⟩ := spawn_cases hs <;> exact .inl (keeps_modifyConn c _)
  | dial c failure =>
    obtain ⟨k, -, -, ⟨-, rfl⟩ | ⟨msg, -, rfl⟩⟩ := dial_cases hs
    · exact .inl ⟨by simp, rfl⟩
    · exact .inl (keeps_modifyConn c _)
  | settle c =>
    obtain ⟨k, e, hk, hst, rfl⟩ := settle_cases hs
    have hc : c ∈ s.pool.liveIds := (h.live c).2 ⟨k, hk, by simp [hst]⟩
    refine .inr (.inr ⟨c, k, hk, .inl ⟨e, rfl, hst⟩, by cases e <;> simp, ?_⟩)
    rw [Pool.dropFailed_of_mem hc]
    cases e <;> exact (Pool.liveIds_nextWaiter _).trans (Pool.liveIds_forget _ _)
  | free c =>
    obtain ⟨k, hk, hst, rfl⟩ := free_cases hs
    have hc : c ∈ s.pool.liveIds := (h.live c).2 ⟨k, hk, by simp [hst]⟩
    refine .inr (.inr ⟨c, k, hk, .inr ⟨rfl, hst⟩, by simp, ?_⟩)
    rw [Pool.freeSlot_of_mem hc]
    exact (Pool.liveIds_nextWaiter _).trans (Pool.liveIds_forget _ _)
  | finish c =>
    obtain ⟨k, -, -, rfl⟩ := finish_cases hs
    exact .inl (keeps_modifyConn c _)
  | handOff i =>
    obtain ⟨c, r, -, hs⟩ := handOff_cases hs
    have ht : Keeps s { s.modifyConn c ({ · with owner := r.ctx }) with
        handOffs := s.handOffs.eraseIdx i, pool := { s.pool with reused := s.pool.reused + 1 } } :=
      keeps_modifyConn c _
    obtain ⟨-, rfl⟩ | ⟨-, hck | ⟨e, -, rfl⟩⟩ := hs
    · exact .inl ht
    · exact .inl (ht.trans (keeps_checkIn h.tracked hck))
    · exact .inl ht
  | retire i =>
    obtain ⟨c, -, rfl⟩ := Option.map_eq_some_iff.1 hs
    exact .inl (keeps_modifyConn c _)
  | notify i =>
    obtain ⟨r, -, rfl⟩ := Option.map_eq_some_iff.1 hs
    dsimp only
    split <;> exact .inl ⟨rfl, rfl⟩
  | deliver i =>
    obtain ⟨⟨r, a⟩, -, rfl⟩ := Option.map_eq_some_iff.1 hs
    exact .inl ⟨rfl, rfl⟩
  | destroy ctx => cases hs; exact .inl ⟨rfl, rfl⟩
  | shutdown => cases hs; exact .inl ⟨rfl, rfl⟩

/-! ### Slots given back along a run -/

/-- Whether the thread of connection `c` is done. -/
def isDone (s : Sys) (c : Nat) : Bool := (s.conn? c).any (·.stage == .done)

/-- How many steps of a run from `s` take connection `c` out of the live ones. -/
def returns (c : Nat) (s : Sys) : List Action → Nat
  | [] => 0
  | a :: as =>
    match s.step a with
    | some s' => (if c ∈ s.pool.liveIds ∧ c ∉ s'.pool.liveIds then 1 else 0) + returns c s' as
    | none => 0

/-- A thread is done exactly when its connection was opened and is no longer live. -/
theorem SlotInv.isDone_iff (h : SlotInv s) (c : Nat) :
    s.isDone c = true ↔ (1 ≤ c ∧ c ≤ s.conns.length) ∧ c ∉ s.pool.liveIds := by
  rw [h.live c, ← conn?_isSome_iff]
  cases hk : s.conn? c <;> simp [isDone, hk]

/-- A step makes a thread done exactly when it takes its connection out of `live`. -/
theorem SlotInv.isDone_step {a : Action} (h : SlotInv s) (hs : s.step a = some s') (c : Nat) :
    s'.isDone c = (s.isDone c || decide (c ∈ s.pool.liveIds ∧ c ∉ s'.pool.liveIds)) := by
  rw [Bool.eq_iff_iff, (h.step hs).isDone_iff, Bool.or_eq_true, h.isDone_iff, decide_eq_true_iff]
  rcases h.shape hs with ⟨hl, hi⟩ | ⟨hl, hi⟩ | ⟨c₀, k, hk, hst, hl, hi⟩
  · rw [hl, hi]; simp
  · -- the new connection is live
    rw [hl, hi, List.mem_append, List.mem_singleton]
    by_cases hc : c ∈ s.pool.liveIds <;> simp [hc] <;> omega
  · -- the slot given back is that of an opened, live connection
    rw [hl, hi, List.mem_filter]
    by_cases hc : c = c₀
    · subst hc
      have h₀ : c ∈ s.pool.liveIds :=
        (h.live c).2 ⟨k, hk, by rcases hst with ⟨e, -, he⟩ | ⟨-, he⟩ <;> simp [he]⟩
      have h₁ : 1 ≤ c ∧ c ≤ s.conns.length := conn?_isSome_iff.1 (by simp [hk])
      simp [h₀, h₁]
    · simp [hc]

/-- Along a run, the slot of each connection comes back once if its thread ends up done, and
    never otherwise. -/
theorem SlotInv.returns_run (h : SlotInv s) {as : List Action} (hr : s.run as = some s') (c : Nat) :
    (if s'.isDone c then 1 else 0) = (if s.isDone c then 1 else 0) + returns c s as := by
  induction as generalizing s with
  | nil =>
    simp only [Sys.run, Option.some.injEq] at hr
    subst hr
    simp [returns]
  | cons a as ih =>
    simp only [Sys.run, Option.bind_eq_some_iff] at hr
    obtain ⟨t, ht, hr⟩ := hr
    rw [ih (h.step ht) hr, h.isDone_step ht c, returns, ht]
    -- a connection already done is not live, so it cannot leave `live` again
    have hd := h.isDone_iff c
    cases hs : s.isDone c <;> simp_all

/-! ### Consequences -/

/-- The connections that are not closed are at most as many as the slots the pool counts. -/
theorem SlotInv.countP_open_le (h : SlotInv s) :
    s.conns.countP (·.state != .closed) ≤ s.pool.active := by
  have hle : s.conns.countP (·.state != .closed) ≤ s.conns.countP (·.stage != .done) := by
    apply List.countP_mono_left
    intro k hk hopen
    obtain ⟨i, hi⟩ := List.mem_iff_getElem?.1 hk
    simpa using (h.fits (i + 1) k hi).stage_ne_done (by simpa using hopen)
  have := h.slots
  rw [← h.count] at hle
  omega

/-- A closed connection's slot was given back already, or giving it back is a step its thread
    can take now. -/
theorem SlotInv.closed_pending {c : Nat} {k : Conn} (h : SlotInv s) (hk : s.conn? c = some k)
    (hc : k.state = .closed) :
    k.stage = .done ∨ (s.step (.settle c)).isSome ∨ (s.step (.free c)).isSome := by
  have hh : k.stage.holdsHook = false := (h.fits c k hk).2.1 hc
  obtain ⟨req, state, owner, hook, stage⟩ := k
  cases stage with
  | done => exact .inl rfl
  | failing e => exact .inr (.inl (by simp [Sys.step, Sys.settle, hk]))
  | freeing => exact .inr (.inr (by simp [Sys.step, Sys.free, hk]))
  | spawning | dialing | driving => simp [Stage.holdsHook] at hh

/-- A live connection holds a slot. -/
theorem SlotInv.active_pos {c : Nat} (h : SlotInv s) (hc : c ∈ s.pool.liveIds) : 1 ≤ s.pool.active := by
  have := h.slots
  have := List.length_pos_of_mem hc
  rw [length_live] at *
  omega

/-- A step takes a connection out of `live` only as the critical section of its failed connect
    or of its close hook, and the counter is then at least one. -/
theorem SlotInv.leaves_live {a : Action} {c : Nat} (h : SlotInv s) (hs : s.step a = some s')
    (hc : c ∈ s.pool.liveIds) (hc' : c ∉ s'.pool.liveIds) :
    1 ≤ s.pool.active ∧ (a = .settle c ∨ a = .free c) := by
  refine ⟨h.active_pos hc, ?_⟩
  rcases h.shape hs with ⟨-, hi⟩ | ⟨-, hi⟩ | ⟨c₀, k, -, hst, -, hi⟩
  · exact absurd (hi ▸ hc) hc'
  · exact absurd (by rw [hi]; exact List.mem_append_left _ hc) hc'
  · by_cases hne : c = c₀
    · subst hne
      rcases hst with ⟨e, rfl, -⟩ | ⟨rfl, -⟩
      · exact .inl rfl
      · exact .inr rfl
    · exact absurd (by rw [hi, List.mem_filter]; simp [hc, hne]) hc'

end Sys

theorem Reachable.slotInv {s : Sys} (h : Reachable s) : s.SlotInv := by
  induction h with
  | start endpoint config transport => exact Sys.slotInv_start endpoint config transport
  | step a _ hs ih => exact ih.step hs

/-- Slot accounting along every run of a pool. The counter is the live connections plus the
    requests admitted for a connection not recorded yet, and stays within the size; connections
    that are not closed are at most that many; a closed connection's slot was given back or is
    the next step of its thread; a step gives a slot back only as the critical section of a
    failed connect or of a close hook, never from a zero counter; and over the run each
    connection's slot came back exactly once if its thread is done, and never otherwise. -/
theorem slot_accounting {endpoint : Endpoint} {config : PoolConfig} {transport : PoolTransport}
    {as : List Action} {s : Sys} (hrun : (Sys.start endpoint config transport).run as = some s) :
    s.pool.active = s.pool.live.length + s.admitted.length ∧
    s.pool.active ≤ s.pool.config.maxSize ∧
    s.conns.countP (·.state != .closed) ≤ s.pool.active ∧
    (∀ c k, s.conn? c = some k → k.state = .closed →
      k.stage = .done ∨ (s.step (.settle c)).isSome ∨ (s.step (.free c)).isSome) ∧
    (∀ a s' c, s.step a = some s' → c ∈ s.pool.liveIds → c ∉ s'.pool.liveIds →
      1 ≤ s.pool.active ∧ (a = .settle c ∨ a = .free c)) ∧
    (∀ c, Sys.returns c (Sys.start endpoint config transport) as = if s.isDone c then 1 else 0) := by
  have h := ((Reachable.start endpoint config transport).run hrun).slotInv
  refine ⟨h.slots, h.bound, h.countP_open_le, fun c k hk hc => h.closed_pending hk hc,
    fun a s' c hs hc hc' => h.leaves_live hs hc hc', fun c => ?_⟩
  have hr := (Sys.slotInv_start endpoint config transport).returns_run hrun c
  have h0 : (Sys.start endpoint config transport).isDone c = false := by
    cases c <;> rfl
  rw [h0] at hr
  simpa using hr.symm

/-- A connect that fails, then a connection opened for the waiter, used, kept idle and closed
    with the pool: each of the two slots came back once. -/
theorem slots_return_after_failure_and_close :
    let run : List Action := [.acquire ⟨1⟩, .acquire ⟨2⟩, .insert 0, .spawn 1,
      .dial 1 (some "refused"), .settle 1, .insert 0, .spawn 2, .dial 2 none, .release ⟨2⟩ 2,
      .closePool, .retire 0, .finish 2, .free 2]
    Sys.returns 1 (Sys.start { host := "mock", port := 4000 } {} (.memory 0)) run = 1 ∧
    Sys.returns 2 (Sys.start { host := "mock", port := 4000 } {} (.memory 0)) run = 1 := by
  intro run
  have hdone : ((Sys.start { host := "mock", port := 4000 } {} (.memory 0)).run run).any
      (fun s => s.isDone 1 && s.isDone 2) = true := by decide
  cases hr : (Sys.start { host := "mock", port := 4000 } {} (.memory 0)).run run with
  | none => rw [hr] at hdone; cases hdone
  | some s =>
    rw [hr, Option.any_some, Bool.and_eq_true] at hdone
    have h := (slot_accounting hr).2.2.2.2.2
    rw [h 1, h 2, hdone.1, hdone.2]
    exact ⟨rfl, rfl⟩

end PoolSystem

end Affinity
