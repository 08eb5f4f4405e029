import Affinity.Proofs.Pool.Slots
/-!
Waiting requests of a pool under concurrent callers.

An open pool with a waiting request has no idle connection and every slot in use
(`Pool.NoStranded`): a request waits only when the pool is saturated, and every step that could
serve it (a check-in that keeps the connection, a slot given back) serves the oldest waiting
request at once. So admission reuses or opens a connection only when nobody waits
(`Pool.NoStranded.grant`); requests leave the queue only from its front, each handed a connection
or a slot, or all at once when the pool closes (`Sys.QueueMove`), and so in arrival order
(`Sys.Fifo`); and a request is admitted for a new connection only while no connection is idle.
`waiters_served_in_order` gathers these along every run.
-/

namespace Affinity

namespace Pool

/-- No request waits while the pool could serve it: an open pool with waiting requests has no
    idle connection and every slot in use. -/
def NoStranded (p : Pool) : Prop :=
  p.closed = false → p.waiters ≠ [] → p.available = [] ∧ p.active = p.config.maxSize

variable {p : Pool}

/-- Nobody waits in an open pool that has an idle connection or a free slot. -/
theorem NoStranded.waiters_eq_nil (hn : p.NoStranded) (hc : p.closed = false)
    (h : p.available ≠ [] ∨ p.active < p.config.maxSize) : p.waiters = [] := by
  cases hw : p.waiters with
  | nil => rfl
  | cons w ws =>
    obtain ⟨ha, hm⟩ := hn hc (by simp [hw])
    rcases h with h | h
    · exact absurd ha h
    · omega

/-- Admission reuses or opens a connection only when nobody waits, so it never opens one for an
    older waiter. -/
theorem NoStranded.grant {ctx : ContextId} {d : Admission} {q : Pool} (hn : p.NoStranded)
    (h : p.grant ctx = .ok (d, q)) (hd : d ≠ .queued) :
    p.waiters = [] ∧ ∀ w, d = .connect w → w = ctx := by
  obtain ⟨hc, ⟨c, rest, hav, rfl, -⟩ | ⟨-, hlt, ⟨w, ws, hws, rfl, -⟩ | ⟨hws, rfl, -⟩⟩ | ⟨-, -, rfl, -⟩⟩ :=
    grant_cases h
  · exact ⟨hn.waiters_eq_nil hc (.inl (by simp [hav])), by simp⟩
  · have := hn.waiters_eq_nil hc (.inr hlt)
    rw [hws] at this
    cases this
  · exact ⟨hws, fun w hw => by cases hw; rfl⟩
  · exact absurd rfl hd

/-- A freed slot goes to the oldest waiter, which fills the pool again; with no waiter the slot
    stays free. -/
theorem noStranded_nextWaiter (hlt : p.active < p.config.maxSize)
    (hw : p.closed = false → p.waiters ≠ [] → p.available = [] ∧ p.active + 1 = p.config.maxSize) :
    p.nextWaiter.2.NoStranded := by
  obtain ⟨-, hq, hr⟩ | ⟨w, ws, hc, -, hws, -, hq⟩ :=
    nextWaiter_cases (show p.nextWaiter = (p.nextWaiter.1, p.nextWaiter.2) from rfl)
  · rw [hq]
    intro hc hne
    rcases hr with hr | hr | hr
    · rw [hc] at hr; cases hr
    · omega
    · exact absurd hr hne
  · rw [hq]
    intro _ _
    exact hw hc (by simp [hws])

/-- A freed slot is given to a waiter only by an open pool with waiters. -/
theorem waiting_of_nextWaiter {next : Option ContextId} {q : Pool} (h : p.nextWaiter = (next, q))
    (hs : next.isSome) : p.closed = false ∧ p.waiters ≠ [] := by
  obtain ⟨rfl, -, -⟩ | ⟨w, ws, hc, -, hws, -, -⟩ := nextWaiter_cases h
  · cases hs
  · exact ⟨hc, by simp [hws]⟩

end Pool

namespace PoolSystem

namespace Sys

variable {s s' : Sys}

theorem noStranded_quiet {t : Sys} (hq : Quiet s t) (hn : s.pool.NoStranded) : t.pool.NoStranded := by
  unfold Pool.NoStranded
  rw [hq.closed, hq.waiters, hq.available, hq.active, hq.config]
  exact hn

theorem noStranded_acquire {ctx : ContextId} (h : SlotInv s) (hn : s.pool.NoStranded)
    (hs : s.acquire ctx = .ok s') : s'.pool.NoStranded := by
  obtain ⟨-, hc, ⟨c, rest, hav, rfl⟩ | ⟨-, hlt, ⟨q, rest, hq, rfl⟩ | ⟨-, rfl⟩⟩ | ⟨hav, hle, rfl⟩⟩ :=
    acquire_cases h.tracked hs
  · -- an idle connection was there, so nobody waited, and nobody waits now
    intro _ hne
    exact absurd (hn.waiters_eq_nil hc (.inl (by simp [hav]))) hne
  · -- a free slot with a waiting request cannot happen
    have := hn.waiters_eq_nil hc (.inr hlt)
    rw [h.tracked.cons hq] at this
    cases this
  · intro _ hne
    exact absurd (hn.waiters_eq_nil hc (.inr hlt)) hne
  · -- the request waits in a saturated pool
    intro _ _
    have := h.bound
    exact ⟨hav, show s.pool.active = s.pool.config.maxSize by omega⟩

theorem noStranded_checkIn {c : Nat} {caller : Option ContextId} (ht : s.Tracked)
    (hn : s.pool.NoStranded) (hs : s.checkIn c caller = .ok s') : s'.pool.NoStranded := by
  obtain ⟨-, ⟨-, rfl⟩ | ⟨hc, -, ⟨q, rest, hq, rfl⟩ | ⟨hq, rfl⟩⟩⟩ := checkIn_cases ht hs
  · exact hn
  · -- the oldest waiter takes the connection; the pool stays saturated
    intro _ _
    exact hn hc (by simp [ht.cons hq])
  · intro _ hne
    exact absurd (ht.nil_iff.1 hq) hne

theorem noStranded_settle {c : Nat} (h : SlotInv s) (hn : s.pool.NoStranded)
    (hs : s.settle c = some s') : s'.pool.NoStranded := by
  obtain ⟨k, e, hk, hst, rfl⟩ := settle_cases hs
  have hc : c ∈ s.pool.liveIds := (h.live c).2 ⟨k, hk, by simp [hst]⟩
  have hpos := h.active_pos hc
  have hb := h.bound
  have hnext := Pool.noStranded_nextWaiter (p := s.pool.forget c) (by simp; omega)
    fun hcl hw => by
      obtain ⟨ha, hm⟩ := hn hcl hw
      exact ⟨ha, by simp; omega⟩
  rw [Pool.dropFailed_of_mem hc]
  cases e <;> exact hnext

theorem noStranded_free {c : Nat} (h : SlotInv s) (hn : s.pool.NoStranded)
    (hs : s.free c = some s') : s'.pool.NoStranded := by
  obtain ⟨k, hk, hst, rfl⟩ := free_cases hs
  have hc : c ∈ s.pool.liveIds := (h.live c).2 ⟨k, hk, by simp [hst]⟩
  have hpos := h.active_pos hc
  have hb := h.bound
  have hnext := Pool.noStranded_nextWaiter
    (p := { s.pool.forget c with available := s.pool.available.filter (· != c) }) (by simp; omega)
    fun hcl hw => by
      obtain ⟨ha, hm⟩ := hn hcl hw
      exact ⟨by simp [ha], by simp; omega⟩
  rw [Pool.freeSlot_of_mem hc]
  exact hnext

theorem noStranded_step {a : Action} (h : SlotInv s) (hn : s.pool.NoStranded)
    (hs : s.step a = some s') : s'.pool.NoStranded := by
  rcases step_cases hs with hq | ⟨ctx, hs⟩ | ⟨ctx, c, t, hck, rfl⟩ | ⟨t, c, hq, hck⟩ | ⟨i, hs⟩ |
    ⟨c, hs⟩ | ⟨c, hs⟩ | hs
  · exact noStranded_quiet hq hn
  · exact noStranded_acquire h hn hs
  · exact (noStranded_checkIn h.tracked hn hck : t.pool.NoStranded)
  · exact noStranded_checkIn (hq.tracked h.tracked) (noStranded_quiet hq hn) hck
  · obtain ⟨r, -, rfl⟩ := Option.map_eq_some_iff.1 hs
    exact hn
  · exact noStranded_settle h hn hs
  · exact noStranded_free h hn hs
  · -- a closed pool strands nobody
    obtain ⟨-, rfl⟩ := closePool_cases hs
    intro hc
    cases hc

/-! ### The order requests leave the queue in -/

/-- What one step does to the waiting requests. -/
inductive QueueMove (s s' : Sys) : Prop where
  /-- No request joins or leaves the queue. -/
  | keep : s'.queue = s.queue → s'.dequeued = s.dequeued → s'.enqueued = s.enqueued →
      s.seq ≤ s'.seq → QueueMove s s'
  /-- A new request joins the back of the queue. -/
  | join (ctx : ContextId) : s'.queue = s.queue ++ [⟨s.seq, ctx⟩] → s'.dequeued = s.dequeued →
      s'.enqueued = s.enqueued ++ [⟨s.seq, ctx⟩] → s'.seq = s.seq + 1 → QueueMove s s'
  /-- The oldest request leaves the queue, handed a connection or admitted for a new one. -/
  | serve (r : Request) (rest : List Request) : s.queue = r :: rest → s'.queue = rest →
      s'.dequeued = s.dequeued ++ [r] → s'.enqueued = s.enqueued → s'.seq = s.seq →
      ((∃ c, (c, r) ∈ s'.handOffs) ∨ r ∈ s'.admitted) → QueueMove s s'
  /-- The pool closes: every waiting request leaves, to be told. -/
  | closeAll : s'.queue = [] → s'.dequeued = s.dequeued ++ s.queue → s'.enqueued = s.enqueued →
      s'.seq = s.seq → s'.notices = s.notices ++ s.queue → QueueMove s s'

theorem queueMove_quiet (hq : Quiet s s') : QueueMove s s' :=
  .keep hq.queue hq.dequeued hq.enqueued (Nat.le_of_eq hq.seq.symm)

theorem queueMove_acquire {ctx : ContextId} (h : SlotInv s) (hn : s.pool.NoStranded)
    (hs : s.acquire ctx = .ok s') : QueueMove s s' := by
  obtain ⟨-, hc, ⟨c, rest, -, rfl⟩ | ⟨-, hlt, ⟨q, rest, hq, rfl⟩ | ⟨-, rfl⟩⟩ | ⟨-, -, rfl⟩⟩ :=
    acquire_cases h.tracked hs
  · exact .keep rfl rfl rfl (Nat.le_succ _)
  · -- opening a connection for an older waiter cannot happen
    have := hn.waiters_eq_nil hc (.inr hlt)
    rw [h.tracked.cons hq] at this
    cases this
  · exact .keep rfl rfl rfl (Nat.le_succ _)
  · exact .join ctx rfl rfl rfl rfl

/-- A check-in serves the oldest waiting request, or none; `s₀` is the state before the quiet
    part of the step. -/
theorem queueMove_checkIn {s₀ : Sys} {c : Nat} {caller : Option ContextId} (hq : Quiet s₀ s)
    (ht : s.Tracked) (hs : s.checkIn c caller = .ok s') : QueueMove s₀ s' := by
  obtain ⟨-, ⟨-, rfl⟩ | ⟨-, -, ⟨r, rest, hr, rfl⟩ | ⟨-, rfl⟩⟩⟩ := checkIn_cases ht hs
  · exact .keep hq.queue hq.dequeued hq.enqueued (Nat.le_of_eq hq.seq.symm)
  · exact .serve r rest (hq.queue ▸ hr) rfl (by rw [hq.dequeued]) hq.enqueued hq.seq
      (.inl ⟨c, by simp⟩)
  · exact .keep hq.queue hq.dequeued hq.enqueued (Nat.le_of_eq hq.seq.symm)

/-- Carrying out a freed slot's decision serves the oldest waiting request, or none. -/
theorem queueMove_admitNext {u : Sys} {next : Option ContextId} (hq : u.queue = s.queue)
    (hd : u.dequeued = s.dequeued) (he : u.enqueued = s.enqueued) (hseq : u.seq = s.seq) :
    QueueMove s (u.admitNext next) := by
  cases next with
  | none => exact .keep (by simp [admitNext, hq]) (by simp [admitNext, hd]) he (Nat.le_of_eq hseq.symm)
  | some w =>
    cases hqs : s.queue with
    | nil =>
      exact .keep (by simp [admitNext, hq, hqs]) (by simp [admitNext, hd, hq, hqs]) he
        (Nat.le_of_eq hseq.symm)
    | cons r rest =>
      exact .serve r rest hqs (by simp [admitNext, hq, hqs]) (by simp [admitNext, hd, hq, hqs]) he hseq
        (.inr (by simp [admitNext, hq, hqs]))

theorem queueMove_step {a : Action} (h : SlotInv s) (hn : s.pool.NoStranded)
    (hs : s.step a = some s') : QueueMove s s' := by
  rcases step_cases hs with hq | ⟨ctx, hs⟩ | ⟨ctx, c, t, hck, rfl⟩ | ⟨t, c, hq, hck⟩ | ⟨i, hs⟩ |
    ⟨c, hs⟩ | ⟨c, hs⟩ | hs
  · exact queueMove_quiet hq
  · exact queueMove_acquire h hn hs
  · -- the user's hold ends after the check-in, which is all that touches the queue
    cases (queueMove_checkIn (by constructor <;> rfl) h.tracked hck : QueueMove s t) with
    | keep hq hd he hseq => exact .keep hq hd he hseq
    | join ctx hq hd he hseq => exact .join ctx hq hd he hseq
    | serve r rest hr hq hd he hseq hh => exact .serve r rest hr hq hd he hseq hh
    | closeAll hq hd he hseq hno => exact .closeAll hq hd he hseq hno
  · exact queueMove_checkIn hq (hq.tracked h.tracked) hck
  · obtain ⟨r, -, rfl⟩ := Option.map_eq_some_iff.1 hs
    exact .keep rfl rfl rfl (Nat.le_refl _)
  · obtain ⟨k, e, -, -, rfl⟩ := settle_cases hs
    cases e <;> exact queueMove_admitNext rfl rfl rfl rfl
  · obtain ⟨k, -, -, rfl⟩ := free_cases hs
    exact queueMove_admitNext rfl rfl rfl rfl
  · obtain ⟨-, rfl⟩ := closePool_cases hs
    exact .closeAll rfl rfl rfl rfl rfl

/-- The requests that waited left the queue in the order they joined it, and joined it in
    arrival order. -/
structure Fifo (s : Sys) : Prop where
  order : s.dequeued ++ s.queue = s.enqueued
  sorted : s.enqueued.Pairwise (·.seq < ·.seq)
  /-- Every request that waited is older than the next one to arrive. -/
  fresh : ∀ r ∈ s.enqueued, r.seq < s.seq

theorem fifo_start (endpoint : Endpoint) (config : PoolConfig) (transport : PoolTransport) :
    Fifo (start endpoint config transport) :=
  ⟨rfl, List.Pairwise.nil, fun _ h => by cases h⟩

theorem Fifo.move (h : Fifo s) (hm : QueueMove s s') : Fifo s' := by
  cases hm with
  | keep hq hd he hseq =>
    refine ⟨by rw [hq, hd, he]; exact h.order, by rw [he]; exact h.sorted, fun r hr => ?_⟩
    have := h.fresh r (he ▸ hr)
    omega
  | join ctx hq hd he hseq =>
    refine ⟨by rw [hq, hd, he, ← h.order, List.append_assoc], ?_, fun r hr => ?_⟩
    · -- the new request is younger than every request that waited before it
      rw [he, List.pairwise_append]
      refine ⟨h.sorted, by simp, fun a ha b hb => ?_⟩
      rw [List.mem_singleton] at hb
      subst hb
      exact h.fresh a ha
    · rw [he, List.mem_append, List.mem_singleton] at hr
      rcases hr with hr | rfl
      · have := h.fresh r hr
        omega
      · rw [hseq]
        exact Nat.lt_succ_self _
  | serve r rest hr hq hd he hseq _ =>
    refine ⟨by rw [hq, hd, he, ← h.order, hr, List.append_assoc]; rfl, by rw [he]; exact h.sorted,
      fun x hx => ?_⟩
    rw [hseq]
    exact h.fresh x (he ▸ hx)
  | closeAll hq hd he hseq _ =>
    refine ⟨by rw [hq, hd, he, List.append_nil]; exact h.order, by rw [he]; exact h.sorted,
      fun x hx => ?_⟩
    rw [hseq]
    exact h.fresh x (he ▸ hx)

/-! ### Admissions -/

theorem admitted_checkIn {c : Nat} {caller : Option ContextId} (ht : s.Tracked)
    (hs : s.checkIn c caller = .ok s') : s'.admitted = s.admitted := by
  obtain ⟨-, ⟨-, rfl⟩ | ⟨-, -, ⟨r, rest, -, rfl⟩ | ⟨-, rfl⟩⟩⟩ := checkIn_cases ht hs <;> rfl

/-- Carrying out a freed slot's decision admits a request only when the decision named one. -/
theorem isSome_of_admits {u : Sys} {next : Option ContextId} (hu : u.admitted = s.admitted)
    (hlt : s.admitted.length < (u.admitNext next).admitted.length) : next.isSome := by
  cases next with
  | none => simp [admitNext, hu] at hlt
  | some w => rfl

/-- A step admits a request for a new connection only while no connection is idle. -/
theorem available_of_admits {a : Action} (h : SlotInv s) (hn : s.pool.NoStranded)
    (hs : s.step a = some s') (hlt : s.admitted.length < s'.admitted.length) :
    s.pool.available = [] := by
  rcases step_cases hs with hq | ⟨ctx, hs⟩ | ⟨ctx, c, t, hck, rfl⟩ | ⟨t, c, hq, hck⟩ | ⟨i, hs⟩ |
    ⟨c, hs⟩ | ⟨c, hs⟩ | hs
  · rw [hq.admitted] at hlt
    omega
  · obtain ⟨-, -, ⟨c, rest, -, rfl⟩ | ⟨hav, -⟩ | ⟨-, -, rfl⟩⟩ := acquire_cases h.tracked hs
    · exact absurd hlt (Nat.lt_irrefl _)
    · exact hav
    · exact absurd hlt (Nat.lt_irrefl _)
  · have := admitted_checkIn h.tracked hck
    simp only [this] at hlt
    omega
  · have := admitted_checkIn (hq.tracked h.tracked) hck
    rw [this, hq.admitted] at hlt
    omega
  · obtain ⟨r, hr, rfl⟩ := Option.map_eq_some_iff.1 hs
    have := (List.getElem?_eq_some_iff.1 hr).1
    simp only [List.length_eraseIdx_of_lt this] at hlt
    omega
  · -- the slot of a failed connect goes to a waiter only when one waits
    obtain ⟨k, e, hk, hst, rfl⟩ := settle_cases hs
    have hc : c ∈ s.pool.liveIds := (h.live c).2 ⟨k, hk, by simp [hst]⟩
    have hsome := isSome_of_admits (by cases e <;> rfl) hlt
    rw [Pool.dropFailed_of_mem hc] at hsome
    obtain ⟨hcl, hw⟩ := Pool.waiting_of_nextWaiter (p := s.pool.forget c) rfl hsome
    exact (hn hcl hw).1
  · obtain ⟨k, hk, hst, rfl⟩ := free_cases hs
    have hc : c ∈ s.pool.liveIds := (h.live c).2 ⟨k, hk, by simp [hst]⟩
    have hsome := isSome_of_admits rfl hlt
    rw [Pool.freeSlot_of_mem hc] at hsome
    obtain ⟨hcl, hw⟩ := Pool.waiting_of_nextWaiter
      (p := { s.pool.forget c with available := s.pool.available.filter (· != c) }) rfl hsome
    exact (hn hcl hw).1
  · obtain ⟨-, rfl⟩ := closePool_cases hs
    exact absurd hlt (Nat.lt_irrefl _)

end Sys

theorem Reachable.waiting {s : Sys} (h : Reachable s) : s.pool.NoStranded ∧ s.Fifo := by
  induction h with
  | start endpoint config transport =>
    exact ⟨fun _ hw => absurd rfl hw, Sys.fifo_start endpoint config transport⟩
  | step a hr hs ih =>
    exact ⟨Sys.noStranded_step hr.slotInv ih.1 hs, ih.2.move (Sys.queueMove_step hr.slotInv ih.1 hs)⟩

/-- The waiting requests of a pool along every run. An open pool with a waiting request has no
    idle connection and every slot in use. So admission reuses or opens a connection only when
    nobody waits, and then for the caller; the waiting requests leave the queue in the order
    they arrived, a step taking out only the oldest one (handed a connection or a slot) or all
    of them when the pool closes; and a request is admitted for a new connection only while no
    connection is idle. -/
theorem waiters_served_in_order {endpoint : Endpoint} {config : PoolConfig}
    {transport : PoolTransport} {as : List Action} {s : Sys}
    (hrun : (Sys.start endpoint config transport).run as = some s) :
    (s.pool.closed = false → s.pool.waiters ≠ [] →
      s.pool.available = [] ∧ s.pool.active = s.pool.config.maxSize) ∧
    (∀ ctx d q, s.pool.grant ctx = .ok (d, q) → d ≠ .queued →
      s.pool.waiters = [] ∧ ∀ w, d = .connect w → w = ctx) ∧
    s.dequeued ++ s.queue = s.enqueued ∧ s.enqueued.Pairwise (·.seq < ·.seq) ∧
    (∀ a s', s.step a = some s' →
      Sys.QueueMove s s' ∧ (s.admitted.length < s'.admitted.length → s.pool.available = [])) := by
  have hr := (Reachable.start endpoint config transport).run hrun
  have h := hr.slotInv
  obtain ⟨hn, hf⟩ := hr.waiting
  exact ⟨hn, fun ctx d q hg hd => hn.grant hg hd, hf.order, hf.sorted,
    fun a s' hs => ⟨Sys.queueMove_step h hn hs, Sys.available_of_admits h hn hs⟩⟩

/-- Three requests on a pool of one connection: once the first holder releases, the second
    request is served and the third still waits, with no connection idle and the slot in use. -/
theorem third_request_waits_on_full_pool :
    let run : List Action := [.acquire ⟨1⟩, .acquire ⟨2⟩, .acquire ⟨3⟩, .insert 0, .spawn 1,
      .dial 1 none, .release ⟨1⟩ 1]
    ((Sys.start { host := "mock", port := 4000 } {} (.memory 0)).run run).any
      (fun s => s.pool.available.isEmpty && s.pool.active == 1) = true := by
  intro run
  have hwait : ((Sys.start { host := "mock", port := 4000 } {} (.memory 0)).run run).any
      (fun s => !s.pool.closed && !s.pool.waiters.isEmpty && s.pool.config.maxSize == 1) = true := by
    decide
  cases hr : (Sys.start { host := "mock", port := 4000 } {} (.memory 0)).run run with
  | none => rw [hr] at hwait; cases hwait
  | some s =>
    rw [hr] at hwait
    simp only [Option.any_some, Bool.and_eq_true, Bool.not_eq_true', List.isEmpty_eq_false_iff,
      beq_iff_eq] at hwait
    obtain ⟨⟨hc, hw⟩, hm⟩ := hwait
    obtain ⟨ha, hact⟩ := (waiters_served_in_order hr).1 hc hw
    simp [ha, hact, hm]

end PoolSystem

end Affinity
