import Affinity.Proofs.Pool.Handlers
import Affinity.Proofs.Pool.Waiters
/-!
Pools that keep no connection for reuse.

A pool whose configuration turns keep-alive off retires every connection a user gives back: the
check-in closes it instead of keeping it idle or passing it on. `Sys.Fresh` is what such a pool
keeps along every run (`Sys.fresh_run`): no connection is idle, no hand-off is decided or
counted, no connection waits in a context's inbox, and a handler is given a connection only as
the answer to the request that connection was opened for. Since each request is answered once,
each connection is given to one handler at most.

A waiting request is then served only by a new connection. The queue loses its oldest request
only in the critical section of a failed connect or of the close hook of a connection that has
reached `closed` (`leaves_queue_fresh`), and that request is admitted for a connection of its
own; a release leaves the queue alone; and the close hook of a connection in an open pool with
waiting requests admits the oldest of them (`free_admits_oldest`).

Main statement: `no_reuse_without_keep_alive`.
-/

namespace Affinity

namespace Pool

variable {p : Pool} {c : Nat}

/-- Giving a slot to a waiter keeps the size, the idle connections and the hand-off count. -/
theorem nextWaiter_keeps (p : Pool) :
    p.nextWaiter.2.config = p.config ∧ p.nextWaiter.2.reused = p.reused ∧
      p.nextWaiter.2.available = p.available := by
  unfold nextWaiter
  split
  · exact ⟨rfl, rfl, rfl⟩
  · split <;> exact ⟨rfl, rfl, rfl⟩

theorem dropFailed_keeps (p : Pool) (c : Nat) :
    (p.dropFailed c).2.config = p.config ∧ (p.dropFailed c).2.reused = p.reused ∧
      (p.dropFailed c).2.available = p.available := by
  unfold dropFailed
  split <;> exact nextWaiter_keeps _

/-- A freed slot never makes a connection idle. -/
theorem freeSlot_keeps (p : Pool) (c : Nat) (h : p.available = []) :
    (p.freeSlot c).2.config = p.config ∧ (p.freeSlot c).2.reused = p.reused ∧
      (p.freeSlot c).2.available = [] := by
  unfold freeSlot
  split
  · exact ⟨rfl, rfl, h⟩
  · obtain ⟨h₁, h₂, h₃⟩ := nextWaiter_keeps { p.forget c with available := p.available.filter (· != c) }
    exact ⟨h₁, h₂, by rw [h₃, h]; rfl⟩

end Pool

namespace PoolSystem

namespace Sys

variable {s s' : Sys}

/-- What a pool without keep-alive keeps along a run: nothing idle, no hand-off decided or
    counted, no connection posted to a context, and a connection given to a handler only as the
    answer to the request it was opened for. -/
structure Fresh (s : Sys) : Prop where
  keepAlive : s.pool.config.keepAlive = false
  available : s.pool.available = []
  handOffs : s.handOffs = []
  reused : s.pool.reused = 0
  inbox : ∀ r c, (r, .ok c) ∉ s.inbox
  answers : ∀ r c, (r, .ok c) ∈ s.answers → ∃ k, s.conn? c = some k ∧ k.req = r

theorem fresh_start (endpoint : Endpoint) (config : PoolConfig) (transport : PoolTransport)
    (h : config.keepAlive = false) : Fresh (start endpoint config transport) :=
  ⟨h, rfl, rfl, rfl, fun _ _ => List.not_mem_nil, fun _ _ hm => absurd hm List.not_mem_nil⟩

/-- The invariant reads the pool's size, idle connections and hand-off count, the decided
    hand-offs, the inbox, the answers and the connections' requests. -/
theorem Fresh.frame {t : Sys} (h : Fresh s) (hk : t.pool.config = s.pool.config)
    (ha : t.pool.available = []) (hh : t.handOffs = s.handOffs) (hr : t.pool.reused = s.pool.reused)
    (hi : t.inbox = s.inbox) (hA : t.answers = s.answers) (hc : t.conns = s.conns) : Fresh t where
  keepAlive := hk ▸ h.keepAlive
  available := ha
  handOffs := hh ▸ h.handOffs
  reused := hr ▸ h.reused
  inbox r c := hi ▸ h.inbox r c
  answers r c hm := conn?_of_conns hc c ▸ h.answers r c (hA ▸ hm)

/-- Updating a connection keeps the invariant when it keeps the connection's request. -/
theorem Fresh.modifyConn (h : Fresh s) (c : Nat) {f : Conn → Conn} (hf : ∀ k, (f k).req = k.req) :
    Fresh (s.modifyConn c f) where
  keepAlive := h.keepAlive
  available := h.available
  handOffs := h.handOffs
  reused := h.reused
  inbox := h.inbox
  answers r c' hm := by
    obtain ⟨k, hk, rfl⟩ := h.answers r c' hm
    rw [conn?_modifyConn]
    split
    · exact ⟨f k, by simp [hk], hf k⟩
    · exact ⟨k, hk, rfl⟩

/-- A handler called with an error keeps the invariant. -/
theorem Fresh.answer_error (h : Fresh s) (r : Request) (e : Error) : Fresh (s.answer r (.error e)) where
  keepAlive := h.keepAlive
  available := h.available
  handOffs := h.handOffs
  reused := h.reused
  inbox := h.inbox
  answers r' c hm := by
    rw [answers_answer, List.mem_append, List.mem_singleton] at hm
    rcases hm with hm | hm
    · simpa using h.answers r' c hm
    · cases hm

/-- A connection given to the handler of the request it was opened for keeps the invariant. -/
theorem Fresh.answer_own (h : Fresh s) {c : Nat} {k : Conn} (hk : s.conn? c = some k) :
    Fresh (s.answer k.req (.ok c)) where
  keepAlive := h.keepAlive
  available := h.available
  handOffs := h.handOffs
  reused := h.reused
  inbox := h.inbox
  answers r' c' hm := by
    rw [answers_answer, List.mem_append, List.mem_singleton] at hm
    rcases hm with hm | hm
    · simpa using h.answers r' c' hm
    · obtain ⟨rfl, hc⟩ := Prod.mk.inj hm
      cases hc
      exact ⟨k, by simpa using hk, rfl⟩

/-- Without keep-alive an accepted check-in retires the connection: the lease ends and a close
    is to be made, and nothing is kept idle or passed on. -/
theorem Fresh.checkIn_retires {c : Nat} {caller : Option ContextId} (h : Fresh s) (ht : s.Tracked)
    (hs : s.checkIn c caller = .ok s') :
    s' = { s with pool := s.pool.setLease c .retired, closing := s.closing ++ [c] } := by
  obtain ⟨-, ⟨-, rfl⟩ | ⟨-, hka, -⟩⟩ := checkIn_cases ht hs
  · rfl
  · rw [h.keepAlive] at hka
    cases hka

theorem Fresh.checkIn {c : Nat} {caller : Option ContextId} (h : Fresh s) (ht : s.Tracked)
    (hs : s.checkIn c caller = .ok s') : Fresh s' := by
  rw [h.checkIn_retires ht hs]
  exact h.frame rfl h.available rfl rfl rfl rfl rfl

theorem Fresh.acquire {ctx : ContextId} (h : Fresh s) (ht : s.Tracked) (hs : s.acquire ctx = .ok s') :
    Fresh s' := by
  obtain ⟨-, -, ⟨c, rest, hav, -⟩ | ⟨-, -, ⟨q, rest, -, rfl⟩ | ⟨-, rfl⟩⟩ | ⟨-, -, rfl⟩⟩ := acquire_cases ht hs
  · -- nothing is idle to hand over
    rw [h.available] at hav
    cases hav
  all_goals exact h.frame rfl h.available rfl rfl rfl rfl rfl

theorem Fresh.release {ctx : ContextId} {c : Nat} (h : Fresh s) (ht : s.Tracked)
    (hs : s.release ctx c = .ok s') : Fresh s' := by
  obtain ⟨t, hck, rfl⟩ := release_cases hs
  have ht' := h.checkIn ht hck
  exact ht'.frame rfl ht'.available rfl rfl rfl rfl rfl

theorem Fresh.insert {i : Nat} (h : Fresh s) (hs : s.insert i = some s') : Fresh s' := by
  obtain ⟨r, -, rfl⟩ := Option.map_eq_some_iff.1 hs
  refine ⟨h.keepAlive, h.available, h.handOffs, h.reused, h.inbox, fun r' c hm => ?_⟩
  -- the new connection takes a new number, so every connection answered keeps its own
  obtain ⟨k, hk, hr⟩ := h.answers r' c hm
  exact ⟨k, conn?_append_of_some rfl hk, hr⟩

theorem Fresh.spawn {c : Nat} (h : Fresh s) (hs : s.spawn c = some s') : Fresh s' := by
  obtain ⟨k, -, -, ⟨-, rfl⟩ | ⟨-, rfl⟩⟩ := spawn_cases hs <;> exact h.modifyConn c fun _ => rfl

/-- A connect that succeeds answers the request it was opened for, with the connection or with
    the pool's close. -/
theorem Fresh.dial {c : Nat} {failure : Option String} (h : Fresh s) (hs : s.dial c failure = some s') :
    Fresh s' := by
  obtain ⟨k, hk, -, ⟨-, rfl⟩ | ⟨msg, -, rfl⟩⟩ := dial_cases hs
  · have hu : Fresh { s with pool := { s.pool with created := s.pool.created + 1 } } :=
      h.frame rfl h.available rfl rfl rfl rfl rfl
    refine Fresh.modifyConn ?_ c fun _ => rfl
    split
    · exact hu.answer_error _ _
    · exact hu.answer_own (k := k) hk
  · exact h.modifyConn c fun _ => rfl

theorem Fresh.admitNext (h : Fresh s) (next : Option ContextId) : Fresh (s.admitNext next) :=
  h.frame rfl h.available rfl rfl rfl rfl rfl

theorem Fresh.settle {c : Nat} (h : Fresh s) (hs : s.settle c = some s') : Fresh s' := by
  obtain ⟨k, e, -, -, rfl⟩ := settle_cases hs
  obtain ⟨hcfg, hre, hav⟩ := Pool.dropFailed_keeps s.pool c
  have hu : Fresh { s.modifyConn c ({ · with stage := .done }) with pool := (s.pool.dropFailed c).2 } :=
    (h.modifyConn c fun _ => by rfl).frame hcfg (hav.trans h.available) rfl hre rfl rfl rfl
  cases e with
  | none => exact hu.admitNext _
  | some e => exact (hu.answer_error _ _).admitNext _

theorem Fresh.free {c : Nat} (h : Fresh s) (hs : s.free c = some s') : Fresh s' := by
  obtain ⟨k, -, -, rfl⟩ := free_cases hs
  obtain ⟨hcfg, hre, hav⟩ := Pool.freeSlot_keeps s.pool c h.available
  have hu : Fresh { s.modifyConn c ({ · with stage := .done }) with pool := (s.pool.freeSlot c).2 } :=
    (h.modifyConn c fun _ => by rfl).frame hcfg hav rfl hre rfl rfl rfl
  exact hu.admitNext _

/-- No hand-off is ever decided, so none can be carried out. -/
theorem Fresh.handOff_none (h : Fresh s) (i : Nat) : s.handOff i = none := by
  simp [handOff, h.handOffs]

theorem Fresh.retire {i : Nat} (h : Fresh s) (hs : s.retire i = some s') : Fresh s' := by
  obtain ⟨c, -, rfl⟩ := Option.map_eq_some_iff.1 hs
  have hc := h.modifyConn c fun k => (Conn.close_keeps k).2
  exact hc.frame rfl hc.available rfl rfl rfl rfl rfl

/-- A close notice posted to a waiting request is an error. -/
theorem Fresh.notify {i : Nat} (h : Fresh s) (hs : s.notify i = some s') : Fresh s' := by
  obtain ⟨r, -, rfl⟩ := Option.map_eq_some_iff.1 hs
  dsimp only
  split
  · refine ⟨h.keepAlive, h.available, h.handOffs, h.reused, fun r' c hm => ?_, h.answers⟩
    rw [List.mem_append, List.mem_singleton] at hm
    rcases hm with hm | hm
    · exact h.inbox r' c hm
    · cases hm
  · exact h.frame rfl h.available rfl rfl rfl rfl rfl

/-- A posted answer that runs is an error, since no connection is ever posted. -/
theorem Fresh.deliver {i : Nat} (h : Fresh s) (hs : s.deliver i = some s') : Fresh s' := by
  obtain ⟨⟨r, a⟩, hi, rfl⟩ := Option.map_eq_some_iff.1 hs
  have hu : Fresh { s with inbox := s.inbox.eraseIdx i } :=
    ⟨h.keepAlive, h.available, h.handOffs, h.reused,
      fun r' c hm => h.inbox r' c ((List.eraseIdx_sublist _ _).subset hm), h.answers⟩
  cases a with
  | error e => exact hu.answer_error r e
  | ok c => exact absurd (List.mem_of_getElem? hi) (h.inbox r c)

theorem Fresh.step {a : Action} (h : Fresh s) (ht : s.Tracked) (hs : s.step a = some s') : Fresh s' := by
  cases a with
  | acquire ctx => exact h.acquire ht (ok_of_toOption hs)
  | release ctx c => exact h.release ht (release_of_step hs)
  | closeConn c =>
    rw [closeConn_of_step hs]
    exact h.modifyConn c fun k => (Conn.close_keeps k).2
  | closePool =>
    obtain ⟨-, rfl⟩ := closePool_cases hs
    exact h.frame rfl rfl rfl rfl rfl rfl rfl
  | insert i => exact h.insert hs
  | spawn c => exact h.spawn hs
  | dial c failure => exact h.dial hs
  | settle c => exact h.settle hs
  | finish c =>
    obtain ⟨k, -, -, rfl⟩ := finish_cases hs
    exact h.modifyConn c fun k => (Conn.finishClose_keeps k).2.1
  | free c => exact h.free hs
  | handOff i =>
    rw [Sys.step, h.handOff_none] at hs
    cases hs
  | retire i => exact h.retire hs
  | notify i => exact h.notify hs
  | deliver i => exact h.deliver hs
  | destroy ctx =>
    cases hs
    exact h.frame rfl h.available rfl rfl rfl rfl rfl
  | shutdown =>
    cases hs
    exact h.frame rfl h.available rfl rfl rfl rfl rfl

/-- Carrying out a freed slot's decision keeps the waiting requests, or admits the oldest one. -/
theorem admitNext_cases (u : Sys) (next : Option ContextId) :
    ((u.admitNext next).queue = u.queue ∧ (u.admitNext next).admitted = u.admitted) ∨
    ∃ r rest, u.queue = r :: rest ∧ (u.admitNext next).queue = rest ∧
      (u.admitNext next).admitted = u.admitted ++ [r] := by
  cases next with
  | none => exact .inl ⟨by simp [admitNext], by simp [admitNext]⟩
  | some w =>
    cases hq : u.queue with
    | nil => exact .inl ⟨by simp [admitNext, hq], by simp [admitNext, hq]⟩
    | cons r rest => exact .inr ⟨r, rest, rfl, by simp [admitNext, hq], by simp [admitNext, hq]⟩

/-- The close hook of a connection in an open pool gives the freed slot to the oldest waiting
    request, which is admitted for a new connection. -/
theorem free_admits_oldest {c : Nat} {r : Request} {rest : List Request} (hsl : SlotInv s)
    (hs : s.free c = some s') (hc : s.pool.closed = false) (hq : s.queue = r :: rest) :
    s'.queue = rest ∧ s'.admitted = s.admitted ++ [r] := by
  obtain ⟨k, hk, hst, rfl⟩ := free_cases hs
  have hlive : c ∈ s.pool.liveIds := (hsl.live c).2 ⟨k, hk, by simp [hst]⟩
  -- forgetting the connection frees a slot, which the oldest waiter takes
  have hlt : (s.pool.forget c).active < s.pool.config.maxSize := by
    have := hsl.active_pos hlive
    have := hsl.bound
    simp only [Pool.forget_active]
    omega
  rw [Pool.freeSlot_of_mem hlive]
  generalize hnw : Pool.nextWaiter { s.pool.forget c with available := s.pool.available.filter (· != c) } = d
  obtain ⟨next, q⟩ := d
  obtain ⟨-, -, hr⟩ | ⟨w, ws, -, -, -, rfl, -⟩ := Pool.nextWaiter_cases hnw
  · rcases hr with hr | hr | hr
    · simp [hc] at hr
    · exact absurd hlt (by simpa using hr)
    · simp [hsl.tracked.cons hq] at hr
  · simp [admitNext, hq]

/-- In a pool without keep-alive a step keeps the waiting requests, at most adding new ones at
    the back; or the pool closes and every waiting request is to be told; or the oldest waiting
    request alone leaves, admitted for a new connection, in the critical section of a failed
    connect or of the close hook of a connection that has reached `closed`. -/
theorem leaves_queue_fresh {a : Action} (h : Fresh s) (hsl : SlotInv s) (hn : s.pool.NoStranded)
    (hs : s.step a = some s') :
    (∃ more, s'.queue = s.queue ++ more) ∨
    (a = .closePool ∧ s'.queue = [] ∧ s'.notices = s.notices ++ s.queue) ∨
    (∃ c r rest, (a = .settle c ∨ a = .free c ∧ ∃ k, s.conn? c = some k ∧ k.state = .closed) ∧
      s.queue = r :: rest ∧ s'.queue = rest ∧ s'.admitted = s.admitted ++ [r]) := by
  have keep : ∀ {u : Sys}, u.queue = s.queue → ∃ more, u.queue = s.queue ++ more :=
    fun hq => ⟨[], by simp [hq]⟩
  cases a with
  | acquire ctx =>
    obtain ⟨-, hc, ⟨c, rest, hav, -⟩ | ⟨-, hlt, ⟨q, rest, hq, -⟩ | ⟨-, rfl⟩⟩ | ⟨-, -, rfl⟩⟩ :=
      acquire_cases hsl.tracked (ok_of_toOption hs)
    · rw [h.available] at hav
      cases hav
    · -- a free slot while a request waits cannot happen
      have := hn.waiters_eq_nil hc (.inr hlt)
      rw [hsl.tracked.cons hq] at this
      cases this
    · exact .inl (keep rfl)
    · exact .inl ⟨_, rfl⟩
  | release ctx c =>
    obtain ⟨t, hck, rfl⟩ := release_cases (release_of_step hs)
    rw [h.checkIn_retires hsl.tracked hck]
    exact .inl (keep rfl)
  | closeConn c =>
    rw [closeConn_of_step hs]
    exact .inl (keep rfl)
  | closePool =>
    obtain ⟨-, rfl⟩ := closePool_cases hs
    exact .inr (.inl ⟨rfl, rfl, rfl⟩)
  | insert i =>
    obtain ⟨r, -, rfl⟩ := Option.map_eq_some_iff.1 hs
    exact .inl (keep rfl)
  | spawn c =>
    obtain ⟨k, -, -, ⟨-, rfl⟩ | ⟨-, rfl⟩⟩ := spawn_cases hs <;> exact .inl (keep rfl)
  | dial c failure =>
    obtain ⟨k, -, -, ⟨-, rfl⟩ | ⟨msg, -, rfl⟩⟩ := dial_cases hs <;> exact .inl (keep rfl)
  | settle c =>
    obtain ⟨k, e, -, -, rfl⟩ := settle_cases hs
    cases e <;> rcases admitNext_cases _ (s.pool.dropFailed c).1 with ⟨hq, -⟩ | ⟨r, rest, hq, hq', ha⟩
    all_goals first
      | exact .inl (keep hq)
      | exact .inr (.inr ⟨c, r, rest, .inl rfl, hq, hq', ha⟩)
  | finish c =>
    obtain ⟨k, -, -, rfl⟩ := finish_cases hs
    exact .inl (keep rfl)
  | free c =>
    obtain ⟨k, hk, hst, rfl⟩ := free_cases hs
    -- the close hook runs only once the driver has closed the connection
    have hclosed : k.state = .closed := (hsl.fits c k hk).2.2 (by simp [hst, Stage.holdsHook])
    rcases admitNext_cases _ (s.pool.freeSlot c).1 with ⟨hq, -⟩ | ⟨r, rest, hq, hq', ha⟩
    · exact .inl (keep hq)
    · exact .inr (.inr ⟨c, r, rest, .inr ⟨rfl, k, hk, hclosed⟩, hq, hq', ha⟩)
  | handOff i =>
    rw [Sys.step, h.handOff_none] at hs
    cases hs
  | retire i =>
    obtain ⟨c, -, rfl⟩ := Option.map_eq_some_iff.1 hs
    exact .inl (keep rfl)
  | notify i =>
    obtain ⟨r, -, rfl⟩ := Option.map_eq_some_iff.1 hs
    dsimp only
    split <;> exact .inl (keep rfl)
  | deliver i =>
    obtain ⟨⟨r, a⟩, -, rfl⟩ := Option.map_eq_some_iff.1 hs
    exact .inl (keep rfl)
  | destroy ctx =>
    cases hs
    exact .inl (keep rfl)
  | shutdown =>
    cases hs
    exact .inl (keep rfl)

/-- Each connection is given to one handler at most: the one of the request it was opened for,
    which is answered once. -/
theorem Fresh.given_once (h : Fresh s) (hr : Reachable s) (c : Nat) :
    s.answers.countP (fun p => p.2.toOption == some c) ≤ 1 := by
  by_cases hc : ∃ r, (r, Except.ok c) ∈ s.answers
  · obtain ⟨r, hm⟩ := hc
    obtain ⟨k, hk, -⟩ := h.answers r c hm
    calc s.answers.countP (fun p => p.2.toOption == some c)
        ≤ s.answers.countP (·.1 == k.req) := by
          refine List.countP_mono_left fun p hp hpc => ?_
          obtain ⟨r', a⟩ := p
          cases a with
          | error e => simp at hpc
          | ok c' =>
            obtain rfl : c' = c := by simpa using hpc
            obtain ⟨k', hk', rfl⟩ := h.answers r' c' hp
            rw [hk] at hk'
            cases hk'
            simp
      _ ≤ 1 := hr.answered_once k.req
  · -- no answer carries the connection
    rw [List.countP_eq_zero.2]
    · exact Nat.zero_le 1
    · rintro ⟨r, a⟩ hm hpc
      cases a with
      | error e => simp at hpc
      | ok c' =>
        obtain rfl : c' = c := by simpa using hpc
        exact hc ⟨r, hm⟩

end Sys

/-- Every state of a run of a pool started without keep-alive keeps `Sys.Fresh`. -/
theorem Sys.fresh_run {endpoint : Endpoint} {config : PoolConfig} {transport : PoolTransport}
    {as : List Action} {s : Sys} (hrun : (Sys.start endpoint config transport).run as = some s)
    (hka : config.keepAlive = false) : Reachable s ∧ s.Fresh :=
  Sys.run_inv (fun t => Reachable t ∧ t.Fresh)
    (fun ht hs => ⟨.step _ ht.1 hs, ht.2.step ht.1.slotInv.tracked hs⟩)
    ⟨.start _ _ _, Sys.fresh_start _ _ _ hka⟩ hrun

/-- A pool whose configuration turns keep-alive off never reuses a connection. Along every run of
    its threads no connection is idle, no hand-off is decided, carried out or counted, and each
    connection is given to one handler at most, the one of the request it was opened for. Every
    release retires the connection and queues its close, leaving the waiting requests and the
    admitted ones alone. A waiting request leaves the queue only when the pool closes, or as the
    oldest one, admitted for a new connection, in the critical section of a failed connect or of
    the close hook of a connection that has reached `closed`; and in an open pool the close hook
    does admit the oldest waiting request. -/
theorem no_reuse_without_keep_alive {endpoint : Endpoint} {config : PoolConfig}
    {transport : PoolTransport} {as : List Action} {s : Sys}
    (hrun : (Sys.start endpoint config transport).run as = some s) (hka : config.keepAlive = false) :
    s.pool.available = [] ∧ s.handOffs = [] ∧ s.pool.reused = 0 ∧ (∀ i, s.step (.handOff i) = none) ∧
    (∀ c, s.answers.countP (fun p => p.2.toOption == some c) ≤ 1) ∧
    (∀ r c, (r, .ok c) ∈ s.answers → ∃ k, s.conn? c = some k ∧ k.req = r) ∧
    (∀ ctx c s', s.step (.release ctx c) = some s' →
      s'.pool.leaseOf c = some .retired ∧ s'.closing = s.closing ++ [c] ∧
      s'.queue = s.queue ∧ s'.admitted = s.admitted) ∧
    (∀ a s', s.step a = some s' →
      (∃ more, s'.queue = s.queue ++ more) ∨
      (a = .closePool ∧ s'.queue = [] ∧ s'.notices = s.notices ++ s.queue) ∨
      (∃ c r rest, (a = .settle c ∨ a = .free c ∧ ∃ k, s.conn? c = some k ∧ k.state = .closed) ∧
        s.queue = r :: rest ∧ s'.queue = rest ∧ s'.admitted = s.admitted ++ [r])) ∧
    (∀ c r rest s', s.step (.free c) = some s' → s.pool.closed = false → s.queue = r :: rest →
      s'.queue = rest ∧ s'.admitted = s.admitted ++ [r]) := by
  obtain ⟨hr, h⟩ := Sys.fresh_run hrun hka
  have hsl := hr.slotInv
  refine ⟨h.available, h.handOffs, h.reused, fun i => by simp [Sys.step, h.handOff_none],
    h.given_once hr, h.answers, fun ctx c s' hs => ?_,
    fun a s' hs => Sys.leaves_queue_fresh h hsl hr.waiting.1 hs,
    fun c r rest s' hs hc hq => Sys.free_admits_oldest hsl hs hc hq⟩
  -- a release is a check-in that retires the connection
  obtain ⟨t, hck, rfl⟩ := Sys.release_cases (Sys.release_of_step hs)
  obtain ⟨⟨holder, k, hl, -, -, -⟩, -⟩ := Sys.checkIn_cases hsl.tracked hck
  rw [h.checkIn_retires hsl.tracked hck]
  refine ⟨?_, rfl, rfl, rfl⟩
  simp [Pool.leaseOf_setLease, hl]

/-- Without keep-alive, the handler's release of its connection retires it and queues its close. -/
theorem release_retires_without_keep_alive :
    ∃ s s', (Sys.start { host := "mock", port := 4000 } { keepAlive := false } (.memory 0)).run
        [.acquire ⟨1⟩, .insert 0, .spawn 1, .dial 1 none] = some s ∧
      s.step (.release ⟨1⟩ 1) = some s' ∧
      s'.pool.leaseOf 1 = some .retired ∧ s'.closing = s.closing ++ [1] ∧ s.pool.reused = 0 := by
  have hrun : ((Sys.start { host := "mock", port := 4000 } { keepAlive := false } (.memory 0)).run
      [.acquire ⟨1⟩, .insert 0, .spawn 1, .dial 1 none]).any
      (fun s => (s.step (.release ⟨1⟩ 1)).isSome) = true := by
    decide
  cases h₀ : (Sys.start { host := "mock", port := 4000 } { keepAlive := false } (.memory 0)).run
      [.acquire ⟨1⟩, .insert 0, .spawn 1, .dial 1 none] with
  | none => rw [h₀] at hrun; cases hrun
  | some s =>
    rw [h₀] at hrun
    cases h₁ : s.step (.release ⟨1⟩ 1) with
    | none => simp [h₁] at hrun
    | some s' =>
      obtain ⟨-, -, hre, -, -, -, hrel, -⟩ := no_reuse_without_keep_alive h₀ rfl
      obtain ⟨hl, hc, -, -⟩ := hrel ⟨1⟩ 1 s' h₁
      exact ⟨s, s', rfl, h₁, hl, hc, hre⟩

end PoolSystem

end Affinity
