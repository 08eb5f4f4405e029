import Affinity.Proofs.Pool.Decisions
import Affinity.Proofs.Pool.System
/-!
What each step of a pool under concurrent callers can do.

The steps that take the pool's lock are stated once here, each as everything it can do given
that the waiting requests are the pool's waiting contexts (`Sys.Tracked`): `acquire_cases`,
`checkIn_cases`, `settle_cases`, `free_cases`, and `tracked_admitNext` for a freed slot. The
other steps only touch connections or what is in flight, and their definitions say so directly.
`step_cases` sorts every step into a decision of the pool or a `Quiet` step, one that leaves
the pool's bookkeeping and its requests alone. Later statements about reachable states cite
these lemmas and never open a step again.
-/

namespace Affinity

namespace PoolSystem

namespace Sys

/-- The waiting requests are the pool's waiting contexts, in order. -/
def Tracked (s : Sys) : Prop := s.queue.map (·.ctx) = s.pool.waiters

variable {s s' : Sys}

theorem Tracked.cons {q : Request} {rest : List Request} (ht : s.Tracked) (hq : s.queue = q :: rest) :
    s.pool.waiters = q.ctx :: rest.map (·.ctx) := by
  rw [← show s.queue.map (·.ctx) = s.pool.waiters from ht, hq, List.map_cons]

theorem Tracked.nil_iff (ht : s.Tracked) : s.queue = [] ↔ s.pool.waiters = [] := by
  rw [← show s.queue.map (·.ctx) = s.pool.waiters from ht, List.map_eq_nil_iff]

/-- Everything `acquire_on` can do: refuse (no step), hand over the oldest idle connection,
    admit the request (or an older waiter) for a new connection while a slot is free, or queue
    it. -/
theorem acquire_cases {ctx : ContextId} (ht : s.Tracked) (hs : s.acquire ctx = .ok s') :
    s.dead.contains ctx = false ∧ s.pool.closed = false ∧
    ((∃ c rest, s.pool.available = c :: rest ∧
        s' = { s with pool := { s.pool.setLease c (.held ctx) with available := rest },
                      seq := s.seq + 1, handOffs := s.handOffs ++ [(c, ⟨s.seq, ctx⟩)] }) ∨
     (s.pool.available = [] ∧ s.pool.active < s.pool.config.maxSize ∧
       ((∃ q rest, s.queue = q :: rest ∧
          s' = { s with pool := { s.pool with active := s.pool.active + 1,
                                              waiters := rest.map (·.ctx) ++ [ctx] },
                        seq := s.seq + 1, queue := rest ++ [⟨s.seq, ctx⟩],
                        enqueued := s.enqueued ++ [⟨s.seq, ctx⟩], dequeued := s.dequeued ++ [q],
                        admitted := s.admitted ++ [q] }) ∨
        (s.queue = [] ∧
          s' = { s with pool := { s.pool with active := s.pool.active + 1 }, seq := s.seq + 1,
                        admitted := s.admitted ++ [⟨s.seq, ctx⟩] }))) ∨
     (s.pool.available = [] ∧ s.pool.config.maxSize ≤ s.pool.active ∧
        s' = { s with pool := { s.pool with waiters := s.pool.waiters ++ [ctx] }, seq := s.seq + 1,
                      queue := s.queue ++ [⟨s.seq, ctx⟩], enqueued := s.enqueued ++ [⟨s.seq, ctx⟩] })) := by
  unfold acquire at hs
  split at hs
  · cases hs
  rename_i hdead
  refine ⟨by simpa using hdead, ?_⟩
  split at hs
  · cases hs
  all_goals rename_i p hg
  all_goals obtain ⟨hcl, hd⟩ := Pool.grant_cases hg
  all_goals refine ⟨hcl, ?_⟩
  · obtain ⟨c', rest, hav, hd, rfl⟩ | ⟨-, -, ⟨w, ws, -, hd, -⟩ | ⟨-, hd, -⟩⟩ | ⟨-, -, hd, -⟩ := hd
    · cases hd
      cases hs
      exact .inl ⟨_, rest, hav, rfl⟩
    all_goals cases hd
  · obtain ⟨c', rest, -, hd, -⟩ | ⟨hav, hlt, ⟨w, ws, hw, -, rfl⟩ | ⟨hw, -, rfl⟩⟩ | ⟨-, -, hd, -⟩ := hd
    · cases hd
    · split at hs
      · rename_i q rest hq
        cases hs
        have := ht.cons hq
        rw [hw] at this
        simp only [List.cons.injEq] at this
        exact .inr (.inl ⟨hav, hlt, .inl ⟨q, rest, hq, by rw [this.2]⟩⟩)
      · rename_i hq
        have := (ht.nil_iff).1 hq
        rw [hw] at this
        cases this
    · split at hs
      · rename_i q rest hq
        have := ht.cons hq
        rw [hw] at this
        cases this
      · cases hs
        exact .inr (.inl ⟨hav, hlt, .inr ⟨‹_›, rfl⟩⟩)
    · cases hd
  · obtain ⟨c', rest, -, hd, -⟩ | ⟨-, -, ⟨w, ws, -, hd, -⟩ | ⟨-, hd, -⟩⟩ | ⟨hav, hle, -, rfl⟩ := hd
    any_goals cases hd
    cases hs
    exact .inr (.inr ⟨hav, hle, rfl⟩)

/-- Everything an accepted check-in can do: retire the connection (a close is then to be made),
    hand it to the oldest waiting request, or keep it idle. It is accepted only for an open
    connection held by the caller, or by anyone when the pool takes it back itself. -/
theorem checkIn_cases {c : Nat} {caller : Option ContextId} (ht : s.Tracked)
    (hs : s.checkIn c caller = .ok s') :
    (∃ holder k, s.pool.leaseOf c = some (.held holder) ∧ (caller = none ∨ caller = some holder) ∧
       s.conn? c = some k ∧ k.state.isOpen = true) ∧
    ((s.pool.closed = true ∨ s.pool.config.keepAlive = false) ∧
        s' = { s with pool := s.pool.setLease c .retired, closing := s.closing ++ [c] } ∨
     s.pool.closed = false ∧ s.pool.config.keepAlive = true ∧
       ((∃ q rest, s.queue = q :: rest ∧
          s' = { s with pool := { s.pool.setLease c (.held q.ctx) with waiters := rest.map (·.ctx) },
                        queue := rest, dequeued := s.dequeued ++ [q], handOffs := s.handOffs ++ [(c, q)] }) ∨
        (s.queue = [] ∧
          s' = { s with pool := { s.pool.setLease c .idle with available := s.pool.available ++ [c] } }))) := by
  dsimp only [checkIn] at hs
  split at hs
  · cases hs
  rename_i d p hg
  cases hs
  obtain ⟨⟨holder, hl, hc⟩, hk⟩ := Pool.checkIn_cases hg
  obtain ⟨ho, hd⟩ := Pool.keepOrRetire_cases hk
  obtain ⟨k, hk, hko⟩ : ∃ k, s.conn? c = some k ∧ k.state.isOpen = true := by
    cases h : s.conn? c with
    | none => simp [h] at ho
    | some k => exact ⟨k, rfl, by simpa [h] using ho⟩
  refine ⟨⟨holder, k, hl, hc, hk, hko⟩, ?_⟩
  obtain ⟨hcl, rfl, rfl⟩ | ⟨hcl, hka, ⟨w, ws, hw, rfl, rfl⟩ | ⟨hw, rfl, rfl⟩⟩ := hd
  · exact .inl ⟨hcl, rfl⟩
  · cases hq : s.queue with
    | nil => rw [ht.nil_iff.1 hq] at hw; cases hw
    | cons q rest =>
      have := ht.cons hq
      rw [hw, List.cons.injEq] at this
      obtain ⟨rfl, rfl⟩ := this
      exact .inr ⟨hcl, hka, .inl ⟨q, rest, rfl, by simp [afterCheckIn]⟩⟩
  · exact .inr ⟨hcl, hka, .inr ⟨ht.nil_iff.2 hw, by simp [afterCheckIn, ht.nil_iff.2 hw]⟩⟩

/-- What an accepted check-in does to who holds or waits for connections: the connection's
    lease becomes `l`, and it is retired, handed to the oldest waiter, or kept idle. -/
theorem checkIn_effect {c : Nat} {caller : Option ContextId} (ht : s.Tracked)
    (hs : s.checkIn c caller = .ok s') :
    s'.conns = s.conns ∧ s'.holders = s.holders ∧ s'.inbox = s.inbox ∧
    ∃ l, s'.pool.live = (s.pool.setLease c l).live ∧
      ((l = .retired ∧ s'.handOffs = s.handOffs ∧ s'.pool.available = s.pool.available) ∨
       (∃ q, l = .held q.ctx ∧ s'.handOffs = s.handOffs ++ [(c, q)] ∧
          s'.pool.available = s.pool.available) ∨
       (l = .idle ∧ s'.handOffs = s.handOffs ∧ s'.pool.available = s.pool.available ++ [c])) := by
  obtain ⟨-, ⟨-, rfl⟩ | ⟨-, -, ⟨q, rest, -, rfl⟩ | ⟨-, rfl⟩⟩⟩ := checkIn_cases ht hs
  · exact ⟨rfl, rfl, rfl, _, rfl, .inl ⟨rfl, rfl, rfl⟩⟩
  · exact ⟨rfl, rfl, rfl, _, rfl, .inr (.inl ⟨q, rfl, rfl, rfl⟩)⟩
  · exact ⟨rfl, rfl, rfl, _, rfl, .inr (.inr ⟨rfl, rfl, rfl⟩)⟩

/-- A check-in neither reads nor writes which handlers hold which connection. -/
theorem checkIn_withHolders {c : Nat} {caller : Option ContextId} (hh : List (Request × Nat))
    (hs : s.checkIn c caller = .ok t) :
    ({ s with holders := hh } : Sys).checkIn c caller = .ok { t with holders := hh } := by
  unfold checkIn at hs ⊢
  dsimp only at hs ⊢
  have hconn : ({ s with holders := hh } : Sys).conn? c = s.conn? c := conn?_of_conns rfl c
  rw [hconn]
  split at hs
  · cases hs
  · rename_i d p _
    cases hs
    cases d with
    | handOff w =>
      simp only [afterCheckIn]
      split <;> rfl
    | idle => rfl
    | close => rfl

/-- Handing a free slot on: when the waiting requests are the waiting contexts of the pool
    that decided, the request admitted is the context the decision named, and the rest still
    wait in the new pool. -/
theorem tracked_admitNext {u : Sys} {p₀ p : Pool} {next : Option ContextId}
    (ht : u.queue.map (·.ctx) = p₀.waiters) (hn : p₀.nextWaiter = (next, p))
    (hq : u.pool.waiters = p.waiters) : (u.admitNext next).Tracked := by
  obtain ⟨rfl, rfl, -⟩ | ⟨w, ws, -, -, hw, rfl, rfl⟩ := Pool.nextWaiter_cases hn
  · simpa [admitNext, Tracked, hq] using ht
  · cases hqs : u.queue with
    | nil => simp [hqs, hw] at ht
    | cons r rest =>
      rw [hqs, hw, List.map_cons, List.cons.injEq] at ht
      simp [admitNext, Tracked, hqs, hq, ht.2]

theorem ok_of_toOption {x : Except Error Sys} (h : x.toOption = some s') : x = .ok s' := by
  cases x <;> simp_all [Except.toOption]

theorem release_cases {ctx : ContextId} {c : Nat} (hs : s.release ctx c = .ok s') :
    ∃ t, s.checkIn c (some ctx) = .ok t ∧
      s' = { t with holders := t.holders.filter fun h => !(h.2 == c && h.1.ctx == ctx) } := by
  unfold release at hs
  cases h : s.checkIn c (some ctx) with
  | error e => simp [h, Except.map] at hs
  | ok t =>
    simp only [h, Except.map, Except.ok.injEq] at hs
    exact ⟨t, rfl, hs.symm⟩

/-- A release is a step only for a connection the pool handed out, and only when it succeeds. -/
theorem release_of_step {ctx : ContextId} {c : Nat} (hs : s.step (.release ctx c) = some s') :
    s.release ctx c = .ok s' := by
  simp only [Sys.step] at hs
  split at hs
  · exact ok_of_toOption hs
  · cases hs

/-- A user's close of a connection the pool handed out asks that connection to close. -/
theorem closeConn_of_step {c : Nat} (hs : s.step (.closeConn c) = some s') :
    s' = s.modifyConn c Conn.close := by
  simp only [Sys.step] at hs
  split at hs
  · cases hs
    rfl
  · cases hs

theorem settle_cases {c : Nat} (hs : s.settle c = some s') :
    ∃ k e, s.conn? c = some k ∧ k.stage = .failing e ∧
      s' = (match e with
        | some e => { s.modifyConn c ({ · with stage := .done }) with pool := (s.pool.dropFailed c).2 }.answer
            k.req (.error e)
        | none => { s.modifyConn c ({ · with stage := .done }) with pool := (s.pool.dropFailed c).2 }).admitNext
        (s.pool.dropFailed c).1 := by
  unfold settle at hs
  split at hs
  · cases hs
    exact ⟨_, _, ‹_›, rfl, rfl⟩
  · cases hs

theorem free_cases {c : Nat} (hs : s.free c = some s') :
    ∃ k, s.conn? c = some k ∧ k.stage = .freeing ∧
      s' = { s.modifyConn c ({ · with stage := .done }) with pool := (s.pool.freeSlot c).2 }.admitNext
        (s.pool.freeSlot c).1 := by
  unfold free at hs
  split at hs
  · split at hs
    · cases hs
      exact ⟨_, ‹_›, ‹_›, rfl⟩
    · cases hs
  · cases hs

theorem spawn_cases {c : Nat} (hs : s.spawn c = some s') :
    ∃ k, s.conn? c = some k ∧ k.stage = .spawning ∧
      (s.alive k.req.ctx = true ∧ s' = s.modifyConn c ({ · with stage := .dialing }) ∨
       s.alive k.req.ctx = false ∧ s' = s.modifyConn c (·.fail none)) := by
  unfold spawn at hs
  split at hs
  · split at hs
    · cases hs
      exact ⟨_, ‹_›, ‹_›, by cases s.alive _ <;> simp⟩
    · cases hs
  · cases hs

theorem dial_cases {c : Nat} {failure : Option String} (hs : s.dial c failure = some s') :
    ∃ k, s.conn? c = some k ∧ k.stage = .dialing ∧
      (failure = none ∧
        s' = ({ s with pool := { s.pool with created := s.pool.created + 1 } }.answer k.req
          (if s.pool.closed then .error .poolClosed else .ok c)).modifyConn c Conn.activate ∨
       ∃ msg, failure = some msg ∧
        s' = s.modifyConn c (·.fail (some (.admission ("connect to " ++ s.pool.endpoint.display ++
          " failed: " ++ msg))))) := by
  unfold dial at hs
  split at hs
  · split at hs
    · split at hs <;> cases hs
      · exact ⟨_, ‹_›, ‹_›, .inl ⟨rfl, rfl⟩⟩
      · exact ⟨_, ‹_›, ‹_›, .inr ⟨_, rfl, rfl⟩⟩
    · cases hs
  · cases hs

theorem finish_cases {c : Nat} (hs : s.finish c = some s') :
    ∃ k, s.conn? c = some k ∧ k.stage = .driving ∧ s' = s.modifyConn c Conn.finishClose := by
  unfold finish at hs
  split at hs
  · split at hs
    · cases hs
      exact ⟨_, ‹_›, ‹_›, rfl⟩
    · cases hs
  · cases hs

theorem handOff_cases {i : Nat} (hs : s.handOff i = some s') :
    ∃ c r, s.handOffs[i]? = some (c, r) ∧
      let t : Sys := { s.modifyConn c ({ · with owner := r.ctx }) with
        handOffs := s.handOffs.eraseIdx i, pool := { s.pool with reused := s.pool.reused + 1 } }
      (t.alive r.ctx = true ∧ s' = { t with inbox := t.inbox ++ [(r, .ok c)] } ∨
       t.alive r.ctx = false ∧ (t.checkIn c none = .ok s' ∨ ∃ e, t.checkIn c none = .error e ∧ s' = t)) := by
  unfold handOff at hs
  obtain ⟨⟨c, r⟩, hi, rfl⟩ := Option.map_eq_some_iff.1 hs
  refine ⟨c, r, hi, ?_⟩
  dsimp only
  split
  · rename_i h
    exact .inl ⟨h, rfl⟩
  · rename_i h
    refine .inr ⟨by simpa using h, ?_⟩
    split
    · rename_i h
      exact .inl h
    · rename_i h
      exact .inr ⟨_, h, rfl⟩

theorem closePool_cases (hs : s.closePool = some s') :
    s.pool.closed = false ∧
    s' = { s with pool := { s.pool with closed := true, available := [], waiters := [] }, queue := [],
                  dequeued := s.dequeued ++ s.queue, notices := s.notices ++ s.queue,
                  closing := s.closing ++ s.pool.liveIds } := by
  unfold closePool at hs
  split at hs
  · cases hs
  · rename_i h
    cases hs
    exact ⟨by simpa using h, rfl⟩

/-- Two states agree on what the pool decides from, and on the requests waiting for it or
    admitted by it. -/
structure Quiet (s s' : Sys) : Prop where
  closed : s'.pool.closed = s.pool.closed
  waiters : s'.pool.waiters = s.pool.waiters
  available : s'.pool.available = s.pool.available
  active : s'.pool.active = s.pool.active
  config : s'.pool.config = s.pool.config
  live : s'.pool.live = s.pool.live
  queue : s'.queue = s.queue
  dequeued : s'.dequeued = s.dequeued
  enqueued : s'.enqueued = s.enqueued
  seq : s'.seq = s.seq
  admitted : s'.admitted = s.admitted

theorem Quiet.tracked {t : Sys} (hq : Quiet s t) (ht : s.Tracked) : t.Tracked := by
  unfold Tracked; rw [hq.queue, hq.waiters]; exact ht

/-- Every step is a decision of the pool (an acquire, a check-in by a user or by the pool itself,
    recording a new connection, giving a slot back, or closing), or a quiet one. -/
theorem step_cases {a : Action} (hs : s.step a = some s') :
    Quiet s s' ∨
    (∃ ctx, s.acquire ctx = .ok s') ∨
    (∃ ctx c t, s.checkIn c (some ctx) = .ok t ∧
      s' = { t with holders := t.holders.filter fun h => !(h.2 == c && h.1.ctx == ctx) }) ∨
    (∃ t c, Quiet s t ∧ t.checkIn c none = .ok s') ∨
    (∃ i, s.insert i = some s') ∨ (∃ c, s.settle c = some s') ∨ (∃ c, s.free c = some s') ∨
    s.closePool = some s' := by
  cases a with
  | acquire ctx => exact .inr (.inl ⟨ctx, ok_of_toOption hs⟩)
  | release ctx c =>
    obtain ⟨t, ht, rfl⟩ := release_cases (release_of_step hs)
    exact .inr (.inr (.inl ⟨ctx, c, t, ht, rfl⟩))
  | closeConn c =>
    obtain rfl := closeConn_of_step hs
    exact .inl (by constructor <;> rfl)
  | closePool => exact .inr (.inr (.inr (.inr (.inr (.inr (.inr hs))))))
  | insert i => exact .inr (.inr (.inr (.inr (.inl ⟨i, hs⟩))))
  | spawn c =>
    obtain ⟨k, -, -, ⟨-, rfl⟩ | ⟨-, rfl⟩⟩ := spawn_cases hs <;> exact .inl (by constructor <;> rfl)
  | dial c failure =>
    obtain ⟨k, -, -, ⟨-, rfl⟩ | ⟨msg, -, rfl⟩⟩ := dial_cases hs <;> exact .inl (by constructor <;> rfl)
  | settle c => exact .inr (.inr (.inr (.inr (.inr (.inl ⟨c, hs⟩)))))
  | finish c =>
    obtain ⟨k, -, -, rfl⟩ := finish_cases hs
    exact .inl (by constructor <;> rfl)
  | free c => exact .inr (.inr (.inr (.inr (.inr (.inr (.inl ⟨c, hs⟩))))))
  | handOff i =>
    obtain ⟨c, r, -, hs⟩ := handOff_cases hs
    obtain ⟨-, rfl⟩ | ⟨-, hck | ⟨e, -, rfl⟩⟩ := hs
    · exact .inl (by constructor <;> rfl)
    · exact .inr (.inr (.inr (.inl ⟨_, c, by constructor <;> rfl, hck⟩)))
    · exact .inl (by constructor <;> rfl)
  | retire i =>
    obtain ⟨c, -, rfl⟩ := Option.map_eq_some_iff.1 hs
    exact .inl (by constructor <;> rfl)
  | notify i =>
    obtain ⟨r, -, rfl⟩ := Option.map_eq_some_iff.1 hs
    dsimp only
    split <;> exact .inl (by constructor <;> rfl)
  | deliver i =>
    obtain ⟨⟨r, a⟩, -, rfl⟩ := Option.map_eq_some_iff.1 hs
    exact .inl (by constructor <;> rfl)
  | destroy ctx => cases hs; exact .inl (by constructor <;> rfl)
  | shutdown => cases hs; exact .inl (by constructor <;> rfl)

end Sys

end PoolSystem

end Affinity
