import Affinity.Proofs.Pool.Leases
import Affinity.Proofs.Pool.Waiters
/-!
Where the requests are.

A request is numbered when it arrives (`Sys.seq`). It then waits in the queue, or is served:
admitted for a new connection, handed a connection, made the request of a connection, posted an
answer or told that the pool closed, answered, or holding a connection. `Sys.served` lists the
requests a state has served in any of these ways.

A step serves only requests it takes off the queue, or the one that arrives with it and does not
wait (`ServedFrom`, `servedFrom_step`). So a request waiting in the queue has not been served in
any way, and every request served is numbered below the next (`Untouched`,
`Reachable.untouched`).
-/

namespace Affinity

namespace PoolSystem

namespace Sys

variable {s s' : Sys} {r : Request}

/-- The requests a state has served in some way, with repetitions. -/
def served (s : Sys) : List Request :=
  s.admitted ++ s.handOffs.map (·.2) ++ s.inbox.map (·.1) ++ s.answers.map (·.1) ++ s.notices ++
    s.conns.map (·.req) ++ s.holders.map (·.1)

section Served

@[grind →] theorem served_of_admitted (h : r ∈ s.admitted) : r ∈ s.served := by
  simp [served, h]

@[grind →] theorem served_of_handOff {x : Nat × Request} (h : x ∈ s.handOffs) : x.2 ∈ s.served := by
  simp only [served, List.mem_append, List.mem_map]
  exact .inl (.inl (.inl (.inl (.inl (.inr ⟨_, h, rfl⟩)))))

@[grind →] theorem served_of_inbox {x : Request × Except Error Nat} (h : x ∈ s.inbox) :
    x.1 ∈ s.served := by
  simp only [served, List.mem_append, List.mem_map]
  exact .inl (.inl (.inl (.inl (.inr ⟨_, h, rfl⟩))))

@[grind →] theorem served_of_answers {x : Request × Except Error Nat} (h : x ∈ s.answers) :
    x.1 ∈ s.served := by
  simp only [served, List.mem_append, List.mem_map]
  exact .inl (.inl (.inl (.inr ⟨_, h, rfl⟩)))

@[grind →] theorem served_of_notices (h : r ∈ s.notices) : r ∈ s.served := by
  simp [served, h]

@[grind →] theorem served_of_conns {k : Conn} (h : k ∈ s.conns) : k.req ∈ s.served := by
  simp only [served, List.mem_append, List.mem_map]
  exact .inl (.inr ⟨_, h, rfl⟩)

@[grind →] theorem served_of_holders {x : Request × Nat} (h : x ∈ s.holders) : x.1 ∈ s.served := by
  simp only [served, List.mem_append, List.mem_map]
  exact .inr ⟨_, h, rfl⟩

/-- An update that keeps each connection's request serves no one. -/
theorem served_modifyConn (c : Nat) {f : Conn → Conn} (hf : ∀ k, (f k).req = k.req) :
    (s.modifyConn c f).served = s.served := by
  simp only [served, holders_modifyConn, inbox_modifyConn, handOffs_modifyConn,
    conns_req_modifyConn s c hf]
  rfl

theorem served_of_modifyConn {c : Nat} {f : Conn → Conn} (hr : r ∈ (s.modifyConn c f).served)
    (hf : ∀ k, (f k).req = k.req) : r ∈ s.served := by
  rwa [served_modifyConn c hf] at hr

@[simp] theorem served_withPool (p : Pool) : ({ s with pool := p } : Sys).served = s.served := rfl

/-- Answering serves the request answered. -/
theorem served_answer (r : Request) (a : Except Error Nat) :
    ∀ r' ∈ (s.answer r a).served, r' ∈ s.served ∨ r' = r := by
  intro r' hr
  cases a <;> simp only [served, answer, List.mem_append, List.mem_map, List.mem_singleton] at hr <;>
    grind

end Served

/-- The waiting requests are numbered below the next, and each waits once. -/
theorem Fifo.seq_lt (h : Fifo s) (hr : r ∈ s.queue) : r.seq < s.seq :=
  h.fresh r (h.order ▸ List.mem_append_right _ hr)

theorem Fifo.nodup (h : Fifo s) : s.queue.Nodup := by
  have hs := h.sorted
  rw [← h.order] at hs
  exact (List.pairwise_append.1 hs).2.1.imp fun hlt he => by subst he; exact Nat.lt_irrefl _ hlt

/-- What a step may serve: a request served before, one that leaves the queue now, or the one
    that arrives now without waiting. -/
def ServedFrom (s s' : Sys) : Prop :=
  ∀ r ∈ s'.served, r ∈ s.served ∨ (r ∈ s.queue ∧ r ∉ s'.queue) ∨
    (r.seq = s.seq ∧ s.seq < s'.seq ∧ r ∉ s'.queue)

theorem ServedFrom.of_subset (h : ∀ r ∈ s'.served, r ∈ s.served) : ServedFrom s s' :=
  fun r hr => .inl (h r hr)

/-- A step that serves the request arriving with it, which does not wait. -/
theorem ServedFrom.of_new (ctx : ContextId) (hf : Fifo s) (hq : s'.queue = s.queue)
    (hseq : s'.seq = s.seq + 1) (h : ∀ r ∈ s'.served, r ∈ s.served ∨ r = ⟨s.seq, ctx⟩) :
    ServedFrom s s' := fun r hr => by
  rcases h r hr with hr | rfl
  · exact .inl hr
  · refine .inr (.inr ⟨rfl, by omega, fun hq' => ?_⟩)
    have := hf.seq_lt (hq ▸ hq')
    exact Nat.lt_irrefl _ this

/-- A step that serves a request it takes off the queue. -/
theorem ServedFrom.of_head {q : Request} (hq : q ∈ s.queue) (hq' : q ∉ s'.queue)
    (h : ∀ r ∈ s'.served, r ∈ s.served ∨ r = q) : ServedFrom s s' := fun r hr => by
  rcases h r hr with hr | rfl
  · exact .inl hr
  · exact .inr (.inl ⟨hq, hq'⟩)

/-- Serving nothing more before a step, with the same queue and number. -/
theorem ServedFrom.of_subset_left {u : Sys} (h₁ : ∀ r ∈ u.served, r ∈ s.served)
    (hq : u.queue = s.queue) (hseq : u.seq = s.seq) (h₂ : ServedFrom u s') : ServedFrom s s' :=
  fun r hr => by
    rcases h₂ r hr with hr | ⟨hq₁, hq₂⟩ | ⟨hs₁, hs₂, hs₃⟩
    · exact .inl (h₁ r hr)
    · exact .inr (.inl ⟨hq ▸ hq₁, hq₂⟩)
    · exact .inr (.inr ⟨hseq ▸ hs₁, hseq ▸ hs₂, hs₃⟩)

/-- Serving nothing more after a step, with the same queue and number. -/
theorem ServedFrom.of_subset_right {u : Sys} (h₁ : ServedFrom s u) (h₂ : ∀ r ∈ s'.served, r ∈ u.served)
    (hq : s'.queue = u.queue) (hseq : s'.seq = u.seq) : ServedFrom s s' := fun r hr => by
  rcases h₁ r (h₂ r hr) with hr | ⟨hq₁, hq₂⟩ | ⟨hs₁, hs₂, hs₃⟩
  · exact .inl hr
  · exact .inr (.inl ⟨hq₁, hq ▸ hq₂⟩)
  · exact .inr (.inr ⟨hs₁, hseq ▸ hs₂, hq ▸ hs₃⟩)

/-! ### What each step serves -/

theorem servedFrom_acquire {ctx : ContextId} (hf : Fifo s) (ht : s.Tracked)
    (hs : s.acquire ctx = .ok s') : ServedFrom s s' := by
  obtain ⟨-, -, ⟨c, rest, -, rfl⟩ | ⟨-, -, ⟨q, rest, hq, rfl⟩ | ⟨-, rfl⟩⟩ | ⟨-, -, rfl⟩⟩ :=
    acquire_cases ht hs
  · -- the new request is handed the idle connection
    refine ServedFrom.of_new ctx hf rfl rfl fun r hr => ?_
    simp only [served, List.map_append, List.mem_append, List.mem_map, List.mem_singleton] at hr
    grind
  · -- the oldest waiter is admitted, and the new request waits
    have hq' : q ∉ rest ++ [⟨s.seq, ctx⟩] := by
      have hn := hf.nodup
      rw [hq, List.nodup_cons] at hn
      have hlt := hf.seq_lt (hq ▸ List.mem_cons_self)
      simp only [List.mem_append, List.mem_singleton, not_or]
      exact ⟨hn.1, fun he => by rw [he] at hlt; exact Nat.lt_irrefl _ hlt⟩
    refine ServedFrom.of_head (hq ▸ List.mem_cons_self) hq' fun r hr => ?_
    simp only [served, List.mem_append, List.mem_singleton] at hr
    grind
  · refine ServedFrom.of_new ctx hf rfl rfl fun r hr => ?_
    simp only [served, List.mem_append, List.mem_singleton] at hr
    grind
  · exact ServedFrom.of_subset fun _ hr => hr

theorem servedFrom_checkIn {c : Nat} {caller : Option ContextId} (hf : Fifo s) (ht : s.Tracked)
    (hs : s.checkIn c caller = .ok s') : ServedFrom s s' := by
  obtain ⟨-, ⟨-, rfl⟩ | ⟨-, -, ⟨q, rest, hq, rfl⟩ | ⟨-, rfl⟩⟩⟩ := checkIn_cases ht hs
  · exact ServedFrom.of_subset fun _ hr => hr
  · -- the oldest waiter is handed the connection
    have hq' : q ∉ rest := by
      have hn := hf.nodup
      rw [hq, List.nodup_cons] at hn
      exact hn.1
    refine ServedFrom.of_head (hq ▸ List.mem_cons_self) hq' fun r hr => ?_
    simp only [served, List.map_append, List.mem_append, List.mem_map, List.mem_singleton] at hr
    grind
  · exact ServedFrom.of_subset fun _ hr => hr

/-- A freed slot's decision serves the oldest waiter, if it names one. -/
theorem servedFrom_admitNext {u : Sys} (next : Option ContextId) (hn : u.queue.Nodup) :
    ServedFrom u (u.admitNext next) := by
  cases hq : u.queue with
  | nil =>
    refine ServedFrom.of_subset fun r hr => ?_
    simp only [served, admitNext, hq, List.take_nil, ite_self, List.append_nil] at hr
    exact hr
  | cons q rest =>
    rw [hq, List.nodup_cons] at hn
    cases next with
    | none =>
      refine ServedFrom.of_subset fun r hr => ?_
      simp only [served, admitNext, Option.isSome_none, Bool.false_eq_true, ↓reduceIte,
        List.append_nil] at hr
      exact hr
    | some w =>
      refine ServedFrom.of_head (by rw [hq]; exact List.mem_cons_self)
        (by simpa [admitNext, hq] using hn.1) fun r hr => ?_
      simp only [served, admitNext, hq, Option.isSome_some, if_true, List.take_succ_cons,
        List.take_zero, List.mem_append, List.mem_singleton] at hr
      grind

/-- A connection's last step: updating it and the pool serves no one, and the slot freed goes
    at most to the oldest waiter. -/
theorem servedFrom_freeSlot {c : Nat} {q : Pool} {next : Option ContextId} (hf : Fifo s) :
    ServedFrom s ({ s.modifyConn c ({ · with stage := .done }) with pool := q }.admitNext next) :=
  ServedFrom.of_subset_left
    (fun r hr => by
      rw [served_withPool] at hr
      exact served_of_modifyConn hr fun _ => rfl)
    (by rfl) (by rfl) (servedFrom_admitNext _ (by exact hf.nodup))

theorem servedFrom_settle {c : Nat} (hf : Fifo s) (hs : s.settle c = some s') : ServedFrom s s' := by
  obtain ⟨k, e, hk, -, rfl⟩ := settle_cases hs
  cases e with
  | none => exact servedFrom_freeSlot hf
  | some e =>
    -- the requester is told the connect's error
    refine ServedFrom.of_subset_left (fun r hr => ?_) (by rfl) (by rfl)
      (servedFrom_admitNext _ (by exact hf.nodup))
    rcases served_answer _ _ r hr with hr | he
    · rw [served_withPool] at hr
      exact served_of_modifyConn hr fun _ => rfl
    · rw [he]
      exact served_of_conns (mem_conns_of_conn? hk)

theorem servedFrom_handOff {i : Nat} (hf : Fifo s) (ht : s.Tracked) (hs : s.handOff i = some s') :
    ServedFrom s s' := by
  obtain ⟨c, r, hi, hs⟩ := handOff_cases hs
  have hmem : (c, r) ∈ s.handOffs := List.mem_of_getElem? hi
  -- taking the hand-off off the list and re-pinning the connection serve no one
  have hu : ∀ r' ∈ ({ s.modifyConn c ({ · with owner := r.ctx }) with
      handOffs := s.handOffs.eraseIdx i, pool := { s.pool with reused := s.pool.reused + 1 } } :
      Sys).served, r' ∈ s.served := fun r' hr' => by
    simp only [served] at hr'
    simp only [conns_req_modifyConn s c (f := ({ · with owner := r.ctx })) fun _ => rfl,
      admitted_modifyConn, inbox_modifyConn, answers_modifyConn, notices_modifyConn,
      holders_modifyConn, List.mem_append, List.mem_map] at hr'
    grind [→ List.mem_of_mem_eraseIdx]
  have hfu : Fifo { s.modifyConn c ({ · with owner := r.ctx }) with
      handOffs := s.handOffs.eraseIdx i, pool := { s.pool with reused := s.pool.reused + 1 } } :=
    ⟨hf.order, hf.sorted, hf.fresh⟩
  obtain ⟨-, rfl⟩ | ⟨-, hck | ⟨e, -, rfl⟩⟩ := hs
  · -- the answer posted is the hand-off's
    refine ServedFrom.of_subset fun r' hr' => ?_
    simp only [served] at hr'
    simp only [conns_req_modifyConn s c (f := ({ · with owner := r.ctx })) fun _ => rfl,
      admitted_modifyConn, inbox_modifyConn, answers_modifyConn, notices_modifyConn,
      holders_modifyConn, List.map_append, List.mem_append, List.mem_map,
      List.mem_singleton] at hr'
    grind [→ List.mem_of_mem_eraseIdx]
  · exact ServedFrom.of_subset_left hu (by rfl) (by rfl) (servedFrom_checkIn hfu (by exact ht) hck)
  · exact ServedFrom.of_subset hu

theorem servedFrom_step {a : Action} (hf : Fifo s) (ht : s.Tracked) (hs : s.step a = some s') :
    ServedFrom s s' := by
  cases a with
  | acquire ctx => exact servedFrom_acquire hf ht (ok_of_toOption hs)
  | release ctx c =>
    obtain ⟨t, hck, rfl⟩ := release_cases (release_of_step hs)
    -- the hold ends after the check-in
    refine (servedFrom_checkIn hf ht hck).of_subset_right (fun r hr => ?_) rfl rfl
    simp only [served, List.mem_append, List.mem_map] at hr
    grind
  | closeConn c =>
    obtain rfl := closeConn_of_step hs
    exact ServedFrom.of_subset fun r hr => served_of_modifyConn hr fun k => (Conn.close_keeps k).2
  | closePool =>
    obtain ⟨-, rfl⟩ := closePool_cases hs
    -- the waiting requests are to be told, and none waits any more
    intro r hr
    have : r ∈ s.served ∨ r ∈ s.queue := by
      simp only [served, List.mem_append] at hr ⊢
      grind
    exact this.imp_right fun hq => .inl ⟨hq, List.not_mem_nil⟩
  | insert i =>
    obtain ⟨r, hr, rfl⟩ := Option.map_eq_some_iff.1 hs
    have hmem : r ∈ s.admitted := List.mem_of_getElem? hr
    refine ServedFrom.of_subset fun r' hr' => ?_
    simp only [served, List.map_append, List.mem_append, List.mem_map, List.mem_singleton] at hr'
    grind [→ List.mem_of_mem_eraseIdx]
  | spawn c =>
    obtain ⟨k, -, -, ⟨-, rfl⟩ | ⟨-, rfl⟩⟩ := spawn_cases hs <;>
      exact ServedFrom.of_subset fun r hr => served_of_modifyConn hr fun _ => rfl
  | dial c failure =>
    obtain ⟨k, hk, -, ⟨-, rfl⟩ | ⟨msg, -, rfl⟩⟩ := dial_cases hs
    · -- the requester is answered
      refine ServedFrom.of_subset fun r hr => ?_
      rcases served_answer _ _ r (served_of_modifyConn hr fun _ => rfl) with hr | he
      · exact hr
      · rw [he]; exact served_of_conns (mem_conns_of_conn? hk)
    · exact ServedFrom.of_subset fun r hr => served_of_modifyConn hr fun _ => rfl
  | settle c => exact servedFrom_settle hf hs
  | finish c =>
    obtain ⟨k, -, -, rfl⟩ := finish_cases hs
    exact ServedFrom.of_subset fun r hr =>
      served_of_modifyConn hr fun k => (Conn.finishClose_keeps k).2.1
  | free c =>
    obtain ⟨k, -, -, rfl⟩ := free_cases hs
    exact servedFrom_freeSlot hf
  | handOff i => exact servedFrom_handOff hf ht hs
  | retire i =>
    obtain ⟨c, -, rfl⟩ := Option.map_eq_some_iff.1 hs
    refine ServedFrom.of_subset fun r hr => ?_
    rw [← served_modifyConn (f := Conn.close) c fun k => (Conn.close_keeps k).2]
    exact hr
  | notify i =>
    obtain ⟨r, hi, rfl⟩ := Option.map_eq_some_iff.1 hs
    have hmem : r ∈ s.notices := List.mem_of_getElem? hi
    refine ServedFrom.of_subset fun r' hr => ?_
    dsimp only at hr
    split at hr <;> simp only [served, List.map_append, List.mem_append, List.mem_map,
      List.mem_singleton] at hr <;> grind [→ List.mem_of_mem_eraseIdx]
  | deliver i =>
    obtain ⟨⟨r, a⟩, hi, rfl⟩ := Option.map_eq_some_iff.1 hs
    have hmem : (r, a) ∈ s.inbox := List.mem_of_getElem? hi
    refine ServedFrom.of_subset fun r' hr => ?_
    cases a <;> simp only [served, answer, List.map_append, List.mem_append, List.mem_map,
      List.mem_singleton] at hr <;> grind [→ List.mem_of_mem_eraseIdx]
  | destroy ctx => cases hs; exact ServedFrom.of_subset fun _ hr => hr
  | shutdown => cases hs; exact ServedFrom.of_subset fun _ hr => hr

/-! ### Waiting requests are untouched -/

/-- A request in the queue after a step was there before, or arrived with the step; and the
    numbering never goes back. -/
theorem QueueMove.mem_queue (hm : QueueMove s s') :
    (∀ r ∈ s'.queue, r ∈ s.queue ∨ r.seq = s.seq) ∧ s.seq ≤ s'.seq := by
  cases hm with
  | keep hq _ _ hseq => exact ⟨fun r hr => .inl (hq ▸ hr), hseq⟩
  | join ctx hq _ _ hseq =>
    refine ⟨fun r hr => ?_, by omega⟩
    rw [hq, List.mem_append, List.mem_singleton] at hr
    exact hr.imp_right fun he => by rw [he]
  | serve r rest hr hq _ _ hseq _ =>
    exact ⟨fun r' hr' => .inl (by rw [hr]; exact List.mem_cons_of_mem _ (hq ▸ hr')), Nat.le_of_eq hseq.symm⟩
  | closeAll hq _ _ hseq _ => exact ⟨fun r hr => (by rw [hq] at hr; cases hr), Nat.le_of_eq hseq.symm⟩

/-- A request waiting in the queue has not been served in any way, and every request served is
    numbered below the next. -/
structure Untouched (s : Sys) : Prop where
  apart : ∀ r ∈ s.queue, r ∉ s.served
  numbered : ∀ r ∈ s.served, r.seq < s.seq

theorem untouched_start (endpoint : Endpoint) (config : PoolConfig) (transport : PoolTransport) :
    Untouched (start endpoint config transport) :=
  ⟨fun _ h => (by cases h), fun _ h => by simp [start, served] at h⟩

theorem Untouched.step (h : Untouched s) (hf : Fifo s) (hm : QueueMove s s')
    (hsv : ServedFrom s s') : Untouched s' := by
  obtain ⟨hq, hseq⟩ := hm.mem_queue
  refine ⟨fun r hr hs => ?_, fun r hr => ?_⟩
  · -- a request waiting after the step was waiting before, or is new; neither was served
    rcases hsv r hs with hs | ⟨-, hn⟩ | ⟨-, -, hn⟩
    · rcases hq r hr with hr | he
      · exact h.apart r hr hs
      · have := h.numbered r hs
        omega
    · exact hn hr
    · exact hn hr
  · rcases hsv r hr with hs | ⟨hq', -⟩ | ⟨he, hlt, -⟩
    · have := h.numbered r hs
      omega
    · have := hf.seq_lt hq'
      omega
    · omega

end Sys

theorem Reachable.untouched {s : Sys} (h : Reachable s) : s.Untouched := by
  induction h with
  | start endpoint config transport => exact Sys.untouched_start endpoint config transport
  | step a hr hs ih =>
    have hw := hr.waiting
    exact ih.step hw.2 (Sys.queueMove_step hr.slotInv hw.1 hs)
      (Sys.servedFrom_step hw.2 hr.slotInv.tracked hs)

end PoolSystem

end Affinity
