import Affinity.Proofs.Pool.Requests
/-!
Acquire handlers: answered at most once, later, and only with what a request may be told.

`acquire_on` only decides under the lock: the request waits, is admitted for a new connection, or
has an idle connection handed to it. Its handler runs later, and only in one of three ways: an
answer posted to the request's context runs there (`deliver`: a hand-off, or the pool's close),
or the connect task opened for the request, which runs on the request's context, answers it when
the transport connects (`dial`) or when the connect failed (`settle`).

Each request is answered at most once because it has at most one way left to be answered, and
answering takes that way: `Sys.dues` counts, for a request, the ways still open and the answers
run, and no step raises it, except `acquire`, which brings a request with none to one
(`dues_step`, `Reachable.dues_le_one`). What a handler is called with is a connection, the pool's
close, or the admission error of a failed connect (`Outcomes`).
-/

namespace Affinity

namespace PoolSystem

/-- The connection's own thread is still to answer its requester: the connect task is to be
    spawned or is dialling, or a failed connect is still to tell the requester its error. -/
def Stage.owes : Stage → Bool
  | .spawning | .dialing | .failing (some _) => true
  | _ => false

/-- What an acquire handler may be called with: a connection, the pool's close, or the admission
    error of a failed connect. -/
def Allowed (a : Except Error Nat) : Prop :=
  (∃ c, a = .ok c) ∨ a = .error .poolClosed ∨ ∃ m, a = .error (.admission m)

namespace Sys

variable {s s' : Sys} {r : Request}

/-- The ways request `r` can still be answered, and the answers it was given: waiting, admitted
    for a new connection, a hand-off decided, an answer posted, a close notice due, a connection
    whose thread is still to answer it, and the answers run. -/
def dues (s : Sys) (r : Request) : Nat :=
  s.queue.countP (· == r) + s.admitted.countP (· == r) + s.handOffs.countP (·.2 == r) +
    s.inbox.countP (·.1 == r) + s.notices.countP (· == r) +
    s.conns.countP (fun k => k.stage.owes && k.req == r) + s.answers.countP (·.1 == r)

section Dues

theorem dues_answer (r' : Request) (a : Except Error Nat) :
    (s.answer r' a).dues r = s.dues r + if r' == r then 1 else 0 := by
  cases a <;> simp only [dues, answer, List.countP_append, List.countP_singleton] <;> omega

/-- A freed slot going to the oldest waiter moves it from the queue to the admitted requests. -/
theorem dues_admitNext (next : Option ContextId) : (s.admitNext next).dues r = s.dues r := by
  cases next with
  | none => simp [admitNext, dues]
  | some w =>
    cases hq : s.queue with
    | nil => simp [admitNext, dues, hq]
    | cons q rest =>
      simp only [dues, admitNext, hq, Option.isSome_some, if_true, List.take_succ_cons, List.take_zero,
        List.length_singleton, List.drop_succ_cons, List.drop_zero, List.countP_append, List.countP_cons,
        List.countP_nil]
      omega

/-- Updating connection `c`: the count moves only through that connection. -/
theorem dues_modifyConn {c : Nat} {k : Conn} (hk : s.conn? c = some k) (f : Conn → Conn) :
    (s.modifyConn c f).dues r + (if k.stage.owes && k.req == r then 1 else 0) =
      s.dues r + if (f k).stage.owes && (f k).req == r then 1 else 0 := by
  have h := s.countP_modifyConn (fun k => k.stage.owes && k.req == r) f hk
  simp only [dues, queue_modifyConn, admitted_modifyConn, handOffs_modifyConn, inbox_modifyConn,
    notices_modifyConn, answers_modifyConn]
  omega

/-- An update of connection `k` that keeps whether it owes an answer, and to whom. -/
theorem dues_modifyConn_of_owes {c : Nat} {k : Conn} {f : Conn → Conn} (hk : s.conn? c = some k)
    (ho : (f k).stage.owes = k.stage.owes) (hr : (f k).req = k.req) : (s.modifyConn c f).dues r = s.dues r := by
  have h := dues_modifyConn (r := r) hk f
  rw [ho, hr] at h
  omega

/-- An update of connection `k`, which owes its requester an answer, after which it owes none. -/
theorem dues_modifyConn_settle {c : Nat} {k : Conn} {f : Conn → Conn} (hk : s.conn? c = some k)
    (ho : k.stage.owes = true) (hf : (f k).stage.owes = false) :
    (s.modifyConn c f).dues r + (if k.req == r then 1 else 0) = s.dues r := by
  have h := dues_modifyConn (r := r) hk f
  rw [ho, hf, Bool.true_and, Bool.false_and] at h
  simpa only [Bool.false_eq_true, if_false, Nat.add_zero] using h

/-- An update that keeps, for every connection, whether it owes an answer, and to whom. -/
theorem dues_modifyConn_of_keeps (c : Nat) {f : Conn → Conn}
    (hf : ∀ k, (f k).stage.owes = k.stage.owes ∧ (f k).req = k.req) : (s.modifyConn c f).dues r = s.dues r := by
  cases hk : s.conn? c with
  | none => simp [dues, conns_modifyConn_of_none f hk]
  | some k => exact dues_modifyConn_of_owes hk (hf k).1 (hf k).2

end Dues

/-! ### What each step does to the count -/

section Steps

/-- `acquire_on` brings the new request, and only it, one way to be answered. -/
theorem dues_acquire {ctx : ContextId} (ht : s.Tracked) (hs : s.acquire ctx = .ok s') :
    s'.dues r = s.dues r + if (⟨s.seq, ctx⟩ : Request) == r then 1 else 0 := by
  obtain ⟨-, -, ⟨c, rest, -, rfl⟩ | ⟨-, -, ⟨q, rest, hq, rfl⟩ | ⟨-, rfl⟩⟩ | ⟨-, -, rfl⟩⟩ :=
    acquire_cases ht hs
  · -- the idle connection is handed to the new request
    simp only [dues, List.countP_append, List.countP_singleton]
    omega
  · -- the oldest waiter is admitted, and the new request waits
    simp only [dues, hq, List.countP_append, List.countP_cons, List.countP_nil]
    omega
  · simp only [dues, List.countP_append, List.countP_singleton]
    omega
  · simp only [dues, List.countP_append, List.countP_singleton]
    omega

/-- A check-in moves at most the oldest waiter, to a hand-off. -/
theorem dues_checkIn {c : Nat} {caller : Option ContextId} (ht : s.Tracked) (hs : s.checkIn c caller = .ok s') :
    s'.dues r = s.dues r := by
  obtain ⟨-, ⟨-, rfl⟩ | ⟨-, -, ⟨q, rest, hq, rfl⟩ | ⟨-, rfl⟩⟩⟩ := checkIn_cases ht hs
  · rfl
  · simp only [dues, hq, List.countP_append, List.countP_cons, List.countP_nil]
    omega
  · rfl

/-- A failed connect's last section: the requester, if it is to be told, is told the error, and
    the freed slot moves the oldest waiter to the admitted requests. -/
theorem dues_settle {c : Nat} (hs : s.settle c = some s') : s'.dues r = s.dues r := by
  obtain ⟨k, e, hk, hst, rfl⟩ := settle_cases hs
  cases e with
  | none =>
    rw [dues_admitNext]
    exact dues_modifyConn_of_owes hk (by simp [hst, Stage.owes]) rfl
  | some e =>
    rw [dues_admitNext, dues_answer]
    exact dues_modifyConn_settle hk (by simp [hst, Stage.owes]) rfl

theorem dues_handOff {i : Nat} (ht : s.Tracked) (hs : s.handOff i = some s') : s'.dues r ≤ s.dues r := by
  obtain ⟨c, r₀, hi, hs⟩ := handOff_cases hs
  -- taking the hand-off off the list takes the request's way to be answered
  have hu : ({ s.modifyConn c ({ · with owner := r₀.ctx }) with
      handOffs := s.handOffs.eraseIdx i, pool := { s.pool with reused := s.pool.reused + 1 } } : Sys).dues r +
      (if r₀ == r then 1 else 0) = s.dues r := by
    have he := countP_eraseIdx (fun x : Nat × Request => x.2 == r) s.handOffs i _ hi
    have hk := dues_modifyConn_of_keeps (r := r) (s := s) c (f := ({ · with owner := r₀.ctx })) fun _ => ⟨rfl, rfl⟩
    simp only [dues, queue_modifyConn, admitted_modifyConn, inbox_modifyConn, notices_modifyConn,
      answers_modifyConn, handOffs_modifyConn] at hk he ⊢
    omega
  obtain ⟨-, rfl⟩ | ⟨-, hck | ⟨e, -, rfl⟩⟩ := hs
  · -- the answer with the connection is posted
    simp only [dues, List.countP_append, List.countP_singleton] at hu ⊢
    omega
  · have ht' : Tracked { s.modifyConn c ({ · with owner := r₀.ctx }) with
        handOffs := s.handOffs.eraseIdx i, pool := { s.pool with reused := s.pool.reused + 1 } } := ht
    rw [dues_checkIn ht' hck]
    omega
  · omega

theorem dues_step {a : Action} (ht : s.Tracked) (hs : s.step a = some s') :
    (∀ r, s'.dues r ≤ s.dues r) ∨
      ∃ ctx, s.acquire ctx = .ok s' ∧ ∀ r, s'.dues r = s.dues r + if (⟨s.seq, ctx⟩ : Request) == r then 1 else 0 := by
  cases a with
  | acquire ctx => exact .inr ⟨ctx, ok_of_toOption hs, fun _ => dues_acquire ht (ok_of_toOption hs)⟩
  | release ctx c =>
    obtain ⟨t, hck, rfl⟩ := release_cases (release_of_step hs)
    -- the hold that ends is no answer
    refine .inl fun r => ?_
    have h := dues_checkIn (r := r) ht hck
    exact Nat.le_of_eq h
  | closeConn c =>
    obtain rfl := closeConn_of_step hs
    exact .inl fun r => Nat.le_of_eq (dues_modifyConn_of_keeps c (f := Conn.close) fun k => by
      unfold Conn.close; split <;> exact ⟨rfl, rfl⟩)
  | closePool =>
    obtain ⟨-, rfl⟩ := closePool_cases hs
    -- the waiting requests are to be told instead
    refine .inl fun r => Nat.le_of_eq ?_
    simp only [dues, List.countP_nil, List.countP_append]
    omega
  | insert i =>
    obtain ⟨r₀, hr, rfl⟩ := Option.map_eq_some_iff.1 hs
    -- the admitted request becomes the request of a connection still to be spawned
    refine .inl fun r => Nat.le_of_eq ?_
    have he := countP_eraseIdx (· == r) s.admitted i _ hr
    simp only [dues, List.countP_append, List.countP_singleton, Stage.owes, Bool.true_and] at he ⊢
    omega
  | spawn c =>
    obtain ⟨k, hk, hst, ⟨-, rfl⟩ | ⟨-, rfl⟩⟩ := spawn_cases hs
    · exact .inl fun r => Nat.le_of_eq (dues_modifyConn_of_owes hk (by simp [hst, Stage.owes]) rfl)
    · -- the context is gone: the handler is dropped with the task
      refine .inl fun r => ?_
      have h := dues_modifyConn_settle (r := r) (f := (·.fail none)) hk (by simp [hst, Stage.owes]) rfl
      omega
  | dial c failure =>
    obtain ⟨k, hk, hst, ⟨-, rfl⟩ | ⟨msg, -, rfl⟩⟩ := dial_cases hs
    · -- the requester is answered, and the connection owes it nothing more
      refine .inl fun r => Nat.le_of_eq ?_
      have hk' : ({ s with pool := { s.pool with created := s.pool.created + 1 } }.answer k.req
          (if s.pool.closed then .error .poolClosed else .ok c)).conn? c = some k := hk
      have h := dues_modifyConn_settle (r := r) (f := Conn.activate) hk' (by simp [hst, Stage.owes]) rfl
      rw [dues_answer] at h
      have hp : ({ s with pool := { s.pool with created := s.pool.created + 1 } } : Sys).dues r = s.dues r := rfl
      omega
    · exact .inl fun r => Nat.le_of_eq (dues_modifyConn_of_owes hk (by simp [hst, Stage.owes, Conn.fail]) rfl)
  | settle c => exact .inl fun r => Nat.le_of_eq (dues_settle hs)
  | finish c =>
    obtain ⟨k, hk, hst, rfl⟩ := finish_cases hs
    -- the driver's end: neither before nor after does the connection owe an answer
    have hf : (Conn.finishClose k).stage.owes = false := by
      unfold Conn.finishClose; split
      · rfl
      · simp only; split <;> rfl
    exact .inl fun r => Nat.le_of_eq (dues_modifyConn_of_owes hk (by rw [hf, hst]; rfl)
      (Conn.finishClose_keeps k).2.1)
  | free c =>
    obtain ⟨k, hk, hst, rfl⟩ := free_cases hs
    refine .inl fun r => Nat.le_of_eq ?_
    rw [dues_admitNext]
    exact dues_modifyConn_of_owes hk (by simp [hst, Stage.owes]) rfl
  | handOff i => exact .inl fun r => dues_handOff ht hs
  | retire i =>
    obtain ⟨c, -, rfl⟩ := Option.map_eq_some_iff.1 hs
    refine .inl fun r => Nat.le_of_eq ?_
    have h := dues_modifyConn_of_keeps (r := r) (s := s) c (f := Conn.close) fun k => by
      unfold Conn.close; split <;> exact ⟨rfl, rfl⟩
    exact h
  | notify i =>
    obtain ⟨r₀, hi, rfl⟩ := Option.map_eq_some_iff.1 hs
    -- the notice due becomes an answer posted, or is dropped with the context
    refine .inl fun r => ?_
    have he := countP_eraseIdx (· == r) s.notices i _ hi
    dsimp only
    split <;> simp only [dues, List.countP_append, List.countP_singleton] at he ⊢ <;> omega
  | deliver i =>
    obtain ⟨⟨r₀, a⟩, hi, rfl⟩ := Option.map_eq_some_iff.1 hs
    -- the posted answer runs
    refine .inl fun r => Nat.le_of_eq ?_
    have he := countP_eraseIdx (fun x : Request × Except Error Nat => x.1 == r) s.inbox i _ hi
    rw [dues_answer]
    simp only [dues] at he ⊢
    omega
  | destroy ctx => cases hs; exact .inl fun _ => Nat.le_refl _
  | shutdown => cases hs; exact .inl fun _ => Nat.le_refl _

/-- A request that has not arrived yet has no way to be answered. -/
theorem dues_new (hu : s.Untouched) (hf : s.Fifo) (ctx : ContextId) : s.dues ⟨s.seq, ctx⟩ = 0 := by
  have hold : ∀ r ∈ s.served, r ≠ ⟨s.seq, ctx⟩ := fun r hr he => by
    have := hu.numbered r hr
    rw [he] at this
    exact Nat.lt_irrefl _ this
  have hq : ∀ r ∈ s.queue, r ≠ ⟨s.seq, ctx⟩ := fun r hr he => by
    have := hf.seq_lt hr
    rw [he] at this
    exact Nat.lt_irrefl _ this
  simp only [dues, Nat.add_eq_zero_iff, List.countP_eq_zero, beq_iff_eq, Bool.and_eq_true, not_and]
  exact ⟨⟨⟨⟨⟨⟨hq, fun r hr => hold r (served_of_admitted hr)⟩, fun x hx => hold x.2 (served_of_handOff hx)⟩,
    fun x hx => hold x.1 (served_of_inbox hx)⟩, fun r hr => hold r (served_of_notices hr)⟩,
    fun k hk _ => hold k.req (served_of_conns hk)⟩, fun x hx => hold x.1 (served_of_answers hx)⟩

end Steps

/-! ### What a handler is called with -/

/-- Every answer posted or run is allowed, and a failed connect has an admission error to tell. -/
structure Outcomes (s : Sys) : Prop where
  inbox : ∀ x ∈ s.inbox, Allowed x.2
  answers : ∀ x ∈ s.answers, Allowed x.2
  failing : ∀ c k e, s.conn? c = some k → k.stage = .failing (some e) → ∃ m, e = .admission m

section Outcomes

theorem Outcomes.modifyConn (h : Outcomes s) (c : Nat) {f : Conn → Conn}
    (hf : ∀ k e, (f k).stage = .failing (some e) → k.stage = .failing (some e) ∨ ∃ m, e = .admission m) :
    Outcomes (s.modifyConn c f) where
  inbox := h.inbox
  answers := h.answers
  failing c' k e hk he := by
    rw [conn?_modifyConn] at hk
    split at hk
    · obtain ⟨k₀, hk₀, rfl⟩ := Option.map_eq_some_iff.1 hk
      exact (hf k₀ e he).elim (h.failing c' k₀ e hk₀) id
    · exact h.failing c' k e hk he

theorem Outcomes.answer (h : Outcomes s) (r : Request) {a : Except Error Nat} (ha : Allowed a) :
    Outcomes (s.answer r a) where
  inbox := h.inbox
  answers x hx := by
    rw [answers_answer, List.mem_append, List.mem_singleton] at hx
    rcases hx with hx | rfl
    · exact h.answers x hx
    · exact ha
  failing := h.failing

theorem Outcomes.post (h : Outcomes s) (r : Request) {a : Except Error Nat} (ha : Allowed a) :
    Outcomes { s with inbox := s.inbox ++ [(r, a)] } where
  inbox x hx := by
    rw [List.mem_append, List.mem_singleton] at hx
    rcases hx with hx | rfl
    · exact h.inbox x hx
    · exact ha
  answers := h.answers
  failing := h.failing

/-- Recording a new connection, which has no failed connect to tell. -/
theorem Outcomes.append (h : Outcomes s) {t : Sys} {k : Conn} (hc : t.conns = s.conns ++ [k])
    (hi : t.inbox = s.inbox) (ha : t.answers = s.answers) (hk : ∀ e, k.stage ≠ .failing (some e)) : Outcomes t where
  inbox := hi ▸ h.inbox
  answers := ha ▸ h.answers
  failing c k' e hk' he := by
    rw [conn?_append_new hc] at hk'
    split at hk'
    · cases hk'
      exact absurd he (hk e)
    · exact h.failing c k' e hk' he

theorem Outcomes.checkIn {c : Nat} {caller : Option ContextId} (h : Outcomes s) (ht : s.Tracked)
    (hs : s.checkIn c caller = .ok s') : Outcomes s' := by
  obtain ⟨-, ⟨-, rfl⟩ | ⟨-, -, ⟨q, rest, -, rfl⟩ | ⟨-, rfl⟩⟩⟩ := checkIn_cases ht hs <;>
    exact ⟨h.inbox, h.answers, h.failing⟩

theorem Outcomes.step {a : Action} (h : Outcomes s) (ht : s.Tracked) (hs : s.step a = some s') :
    Outcomes s' := by
  -- the stage updates other than a failed connect make no failing stage
  have close : ∀ k e, (Conn.close k).stage = .failing (some e) → k.stage = .failing (some e) ∨ ∃ m, e = .admission m :=
    fun k e he => .inl (by unfold Conn.close at he; split at he <;> exact he)
  cases a with
  | acquire ctx =>
    obtain ⟨-, -, ⟨c, rest, -, rfl⟩ | ⟨-, -, ⟨q, rest, -, rfl⟩ | ⟨-, rfl⟩⟩ | ⟨-, -, rfl⟩⟩ :=
      acquire_cases ht (ok_of_toOption hs) <;> exact ⟨h.inbox, h.answers, h.failing⟩
  | release ctx c =>
    obtain ⟨t, hck, rfl⟩ := release_cases (release_of_step hs)
    have ht' := h.checkIn ht hck
    exact ⟨ht'.inbox, ht'.answers, ht'.failing⟩
  | closeConn c =>
    obtain rfl := closeConn_of_step hs
    exact h.modifyConn c close
  | closePool =>
    obtain ⟨-, rfl⟩ := closePool_cases hs
    exact ⟨h.inbox, h.answers, h.failing⟩
  | insert i =>
    obtain ⟨r₀, hr, rfl⟩ := Option.map_eq_some_iff.1 hs
    exact h.append rfl rfl rfl fun e he => by cases he
  | spawn c =>
    obtain ⟨k, hk, hst, ⟨-, rfl⟩ | ⟨-, rfl⟩⟩ := spawn_cases hs
    · exact h.modifyConn c (f := ({ · with stage := .dialing })) fun k e he => by cases he
    · exact h.modifyConn c (f := (·.fail none)) fun k e he => by simp [Conn.fail] at he
  | dial c failure =>
    obtain ⟨k, hk, hst, ⟨-, rfl⟩ | ⟨msg, -, rfl⟩⟩ := dial_cases hs
    · -- the requester is given the connection, or told the pool closed
      have ha : Allowed (if s.pool.closed then .error .poolClosed else .ok c) := by
        split
        · exact .inr (.inl rfl)
        · exact .inl ⟨c, rfl⟩
      have hp : Outcomes { s with pool := { s.pool with created := s.pool.created + 1 } } :=
        ⟨h.inbox, h.answers, h.failing⟩
      exact (hp.answer k.req ha).modifyConn c (f := Conn.activate) fun k e he => by simp [Conn.activate] at he
    · -- a failed connect has the admission error to tell
      exact h.modifyConn c (f := (·.fail (some (.admission ("connect to " ++ s.pool.endpoint.display ++
        " failed: " ++ msg))))) fun k e he => by
        simp only [Conn.fail, Stage.failing.injEq, Option.some.injEq] at he
        exact .inr ⟨_, he.symm⟩
  | settle c =>
    obtain ⟨k, e, hk, hst, rfl⟩ := settle_cases hs
    have hd := h.modifyConn c (f := ({ · with stage := .done })) fun k e he => by cases he
    cases e with
    | none => exact ⟨hd.inbox, hd.answers, hd.failing⟩
    | some e =>
      -- the requester is told the connect's admission error
      obtain ⟨m, rfl⟩ := h.failing c k e hk hst
      have ha := Outcomes.answer (s := { s.modifyConn c ({ · with stage := .done }) with
        pool := (s.pool.dropFailed c).2 }) ⟨hd.inbox, hd.answers, hd.failing⟩ k.req (.inr (.inr ⟨m, rfl⟩))
      exact ⟨ha.inbox, ha.answers, ha.failing⟩
  | finish c =>
    obtain ⟨k, hk, hst, rfl⟩ := finish_cases hs
    exact h.modifyConn c (f := Conn.finishClose) fun k e he => by
      unfold Conn.finishClose at he
      split at he
      · cases he
      · simp only at he
        split at he <;> cases he
  | free c =>
    obtain ⟨k, hk, hst, rfl⟩ := free_cases hs
    have hd := h.modifyConn c (f := ({ · with stage := .done })) fun k e he => by cases he
    exact ⟨hd.inbox, hd.answers, hd.failing⟩
  | handOff i =>
    obtain ⟨c, r₀, hi, hs⟩ := handOff_cases hs
    have hd := h.modifyConn c (f := ({ · with owner := r₀.ctx })) fun k e he => .inl he
    have hu : Outcomes { s.modifyConn c ({ · with owner := r₀.ctx }) with
        handOffs := s.handOffs.eraseIdx i, pool := { s.pool with reused := s.pool.reused + 1 } } :=
      ⟨hd.inbox, hd.answers, hd.failing⟩
    obtain ⟨-, rfl⟩ | ⟨-, hck | ⟨e, -, rfl⟩⟩ := hs
    · exact hu.post r₀ (.inl ⟨c, rfl⟩)
    · exact hu.checkIn ht hck
    · exact hu
  | retire i =>
    obtain ⟨c, -, rfl⟩ := Option.map_eq_some_iff.1 hs
    have hd := h.modifyConn c close
    exact ⟨hd.inbox, hd.answers, hd.failing⟩
  | notify i =>
    obtain ⟨r₀, -, rfl⟩ := Option.map_eq_some_iff.1 hs
    have hu : Outcomes { s with notices := s.notices.eraseIdx i } := ⟨h.inbox, h.answers, h.failing⟩
    dsimp only
    split
    · exact hu.post r₀ (.inr (.inl rfl))
    · exact hu
  | deliver i =>
    obtain ⟨⟨r₀, a⟩, hi, rfl⟩ := Option.map_eq_some_iff.1 hs
    -- the answer that runs is one that was posted
    have hu : Outcomes { s with inbox := s.inbox.eraseIdx i } :=
      ⟨fun x hx => h.inbox x (List.mem_of_mem_eraseIdx hx), h.answers, h.failing⟩
    exact hu.answer r₀ (h.inbox _ (List.mem_of_getElem? hi))
  | destroy ctx => cases hs; exact ⟨h.inbox, h.answers, h.failing⟩
  | shutdown => cases hs; exact ⟨h.inbox, h.answers, h.failing⟩

end Outcomes

/-! ### Who runs a handler -/

/-- A step runs at most one handler: the answer posted to the request's context, or the answer
    of the connect task opened for the request, when the transport connects or the connect has
    failed. -/
theorem answers_step {a : Action} (ht : s.Tracked) (hs : s.step a = some s') :
    s'.answers = s.answers ∨ ∃ r x, s'.answers = s.answers ++ [(r, x)] ∧
      ((∃ i, a = .deliver i ∧ s.inbox[i]? = some (r, x)) ∨
        ∃ c k, s.conn? c = some k ∧ k.req = r ∧ k.stage.owes = true ∧ (a = .dial c none ∨ a = .settle c)) := by
  cases a with
  | acquire ctx =>
    obtain ⟨-, -, ⟨c, rest, -, rfl⟩ | ⟨-, -, ⟨q, rest, -, rfl⟩ | ⟨-, rfl⟩⟩ | ⟨-, -, rfl⟩⟩ :=
      acquire_cases ht (ok_of_toOption hs) <;> exact .inl rfl
  | release ctx c =>
    obtain ⟨t, hck, rfl⟩ := release_cases (release_of_step hs)
    obtain ⟨-, ⟨-, rfl⟩ | ⟨-, -, ⟨q, rest, -, rfl⟩ | ⟨-, rfl⟩⟩⟩ := checkIn_cases ht hck <;> exact .inl rfl
  | closeConn c =>
    obtain rfl := closeConn_of_step hs
    exact .inl rfl
  | closePool =>
    obtain ⟨-, rfl⟩ := closePool_cases hs
    exact .inl rfl
  | insert i =>
    obtain ⟨r₀, -, rfl⟩ := Option.map_eq_some_iff.1 hs
    exact .inl rfl
  | spawn c =>
    obtain ⟨k, -, -, ⟨-, rfl⟩ | ⟨-, rfl⟩⟩ := spawn_cases hs <;> exact .inl rfl
  | dial c failure =>
    obtain ⟨k, hk, hst, ⟨rfl, rfl⟩ | ⟨msg, -, rfl⟩⟩ := dial_cases hs
    · exact .inr ⟨_, _, rfl, .inr ⟨c, k, hk, rfl, by simp [hst, Stage.owes], .inl rfl⟩⟩
    · exact .inl rfl
  | settle c =>
    obtain ⟨k, e, hk, hst, rfl⟩ := settle_cases hs
    cases e with
    | none => exact .inl rfl
    | some e => exact .inr ⟨_, _, rfl, .inr ⟨c, k, hk, rfl, by simp [hst, Stage.owes], .inr rfl⟩⟩
  | finish c =>
    obtain ⟨k, -, -, rfl⟩ := finish_cases hs
    exact .inl rfl
  | free c =>
    obtain ⟨k, -, -, rfl⟩ := free_cases hs
    exact .inl rfl
  | handOff i =>
    obtain ⟨c, r₀, -, ⟨-, rfl⟩ | ⟨-, hck | ⟨e, -, rfl⟩⟩⟩ := handOff_cases hs
    · exact .inl rfl
    · have ht' : Tracked { s.modifyConn c ({ · with owner := r₀.ctx }) with
          handOffs := s.handOffs.eraseIdx i, pool := { s.pool with reused := s.pool.reused + 1 } } := ht
      obtain ⟨-, ⟨-, rfl⟩ | ⟨-, -, ⟨q, rest, -, rfl⟩ | ⟨-, rfl⟩⟩⟩ := checkIn_cases ht' hck <;> exact .inl rfl
    · exact .inl rfl
  | retire i =>
    obtain ⟨c, -, rfl⟩ := Option.map_eq_some_iff.1 hs
    exact .inl rfl
  | notify i =>
    obtain ⟨r₀, -, rfl⟩ := Option.map_eq_some_iff.1 hs
    dsimp only
    split <;> exact .inl rfl
  | deliver i =>
    obtain ⟨⟨r₀, a⟩, hi, rfl⟩ := Option.map_eq_some_iff.1 hs
    exact .inr ⟨r₀, a, rfl, .inl ⟨i, rfl, hi⟩⟩
  | destroy ctx => cases hs; exact .inl rfl
  | shutdown => cases hs; exact .inl rfl

end Sys

theorem Reachable.dues_le_one {s : Sys} (h : Reachable s) (r : Request) : s.dues r ≤ 1 := by
  induction h generalizing r with
  | start endpoint config transport => simp [Sys.dues, Sys.start]
  | @step t t' a hr hs ih =>
    rcases Sys.dues_step hr.slotInv.tracked hs with hle | ⟨ctx, -, heq⟩
    · exact Nat.le_trans (hle r) (ih r)
    · -- the request that arrives had no way to be answered before
      rw [heq r]
      by_cases hnew : (⟨t.seq, ctx⟩ : Request) = r
      · subst hnew
        rw [Sys.dues_new hr.untouched hr.waiting.2]
        simp
      · simpa [hnew] using ih r

theorem Reachable.outcomes {s : Sys} (h : Reachable s) : s.Outcomes := by
  induction h with
  | start endpoint config transport =>
    refine ⟨fun _ h => ?_, fun _ h => ?_, fun c k e hk => ?_⟩
    · cases h
    · cases h
    · cases c <;> simp [Sys.conn?, Sys.start] at hk
  | step a hr hs ih => exact ih.step hr.slotInv.tracked hs

end PoolSystem

end Affinity
