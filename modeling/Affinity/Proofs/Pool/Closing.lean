import Mathlib.Data.List.Nodup
import Affinity.Proofs.Pool.Requests
/-!
Closing a pool.

`close` marks the pool closed under the lock and empties its idle list and its queue; it is
then to tell each waiting request that the pool closed and to ask each live connection to close.
From then on the pool decides nothing: no request is admitted, no connection handed off and no
connection opened, and every acquire from a context that is not destroyed fails with
`PoolClosed` (`Closed`, `Closed.step`, `acquire_of_closed`).

A request waiting at the close is told once: its notice, the answer posted for it and the answer
run for it add up to at most one, and to one while its context can take work, and each is
`PoolClosed` (`Told`, `Told.step`). A connection live at the close is asked to close by a step of
the pool itself, and is closing or closed from then on (`Asked`, `Asked.step`).

`close_is_final` puts these together over every run that closes the pool.
-/

namespace Affinity

namespace PoolSystem

namespace Conn

/-- Asking a connection to close leaves it not open. -/
theorem close_not_open (k : Conn) : k.close.state.isOpen = false := by
  unfold Conn.close
  split
  · rfl
  · exact Bool.eq_false_iff.2 ‹_›

/-- Starting the driver opens no connection that is closing or closed. -/
theorem activate_not_open {k : Conn} (h : k.state.isOpen = false) :
    k.activate.state.isOpen = false := by
  show (if k.state = .connecting then ConnectionState.active else k.state).isOpen = false
  split
  · rename_i hc
    rw [hc] at h
    cases h
  · exact h

theorem finishClose_not_open {k : Conn} (h : k.state.isOpen = false) :
    k.finishClose.state.isOpen = false := by
  unfold finishClose
  split
  · exact h
  · rfl

end Conn

namespace Sys

variable {s s' s₁ : Sys}

/-- A closed pool refuses every acquire from a context that is not destroyed. -/
theorem acquire_of_closed {ctx : ContextId} (h : s.pool.closed = true)
    (hd : s.dead.contains ctx = false) : s.acquire ctx = .error .poolClosed := by
  have hd' : ctx ∉ s.dead := by simpa using hd
  simp [acquire, hd', Pool.grant_closed h]

/-- What a closed pool keeps from the state right after its close, `s₁`: it stays closed with
    nobody waiting and nothing idle, and decides no admission and no hand-off. -/
structure Closed (s₁ s : Sys) : Prop where
  closed : s.pool.closed = true
  queue : s.queue = []
  waiters : s.pool.waiters = []
  available : s.pool.available = []
  admitted : s.admitted.Sublist s₁.admitted
  handOffs : s.handOffs.Sublist s₁.handOffs

theorem closed_closePool (hs : s.closePool = some s') : Closed s' s' := by
  obtain ⟨-, rfl⟩ := closePool_cases hs
  exact ⟨rfl, rfl, rfl, rfl, .refl _, .refl _⟩

theorem Closed.tracked (h : Closed s₁ s) : s.Tracked := by
  unfold Tracked
  rw [h.queue, h.waiters]
  rfl

theorem Closed.frame {t : Sys} (h : Closed s₁ s) (hc : t.pool.closed = s.pool.closed)
    (hw : t.pool.waiters = s.pool.waiters) (ha : t.pool.available.Sublist s.pool.available)
    (hq : t.queue = s.queue) (hA : t.admitted.Sublist s.admitted)
    (hO : t.handOffs.Sublist s.handOffs) : Closed s₁ t :=
  ⟨hc ▸ h.closed, hq ▸ h.queue, hw ▸ h.waiters, List.sublist_nil.1 (h.available ▸ ha),
    hA.trans h.admitted, hO.trans h.handOffs⟩

theorem Closed.same {t : Sys} (h : Closed s₁ s) (hp : t.pool = s.pool) (hq : t.queue = s.queue)
    (hA : t.admitted = s.admitted) (hO : t.handOffs = s.handOffs) : Closed s₁ t :=
  h.frame (by rw [hp]) (by rw [hp]) (by rw [hp]) hq (hA ▸ .refl _) (hO ▸ .refl _)

/-- A check-in on a closed pool retires the connection: its close falls due, and nothing else
    changes. -/
theorem Closed.checkIn_retires {c : Nat} {caller : Option ContextId} (h : Closed s₁ s)
    (hs : s.checkIn c caller = .ok s') :
    s' = { s with pool := s.pool.setLease c .retired, closing := s.closing ++ [c] } := by
  obtain ⟨-, ⟨-, rfl⟩ | ⟨hc, -⟩⟩ := checkIn_cases h.tracked hs
  · rfl
  · rw [h.closed] at hc
    cases hc

theorem Closed.checkIn {c : Nat} {caller : Option ContextId} (h : Closed s₁ s)
    (hs : s.checkIn c caller = .ok s') : Closed s₁ s' := by
  obtain rfl := h.checkIn_retires hs
  exact h.frame rfl rfl (.refl _) rfl (.refl _) (.refl _)

/-- An acquire is refused by a closed pool, so it is not a step. -/
theorem Closed.not_acquire {ctx : ContextId} (h : Closed s₁ s) : s.step (.acquire ctx) = none := by
  cases hs : s.step (.acquire ctx) with
  | none => rfl
  | some s' =>
    obtain ⟨-, hcl, -⟩ := acquire_cases h.tracked (ok_of_toOption hs)
    rw [h.closed] at hcl
    cases hcl

/-- A second close does nothing. -/
theorem Closed.not_closePool (h : Closed s₁ s) : s.step .closePool = none := by
  simp [Sys.step, closePool, h.closed]

/-- Taking a hand-off decided before the close keeps the pool closed. -/
theorem Closed.takeHandOff (h : Closed s₁ s) (i c : Nat) (r : Request) :
    Closed s₁ { s.modifyConn c ({ · with owner := r.ctx }) with
      handOffs := s.handOffs.eraseIdx i, pool := { s.pool with reused := s.pool.reused + 1 } } :=
  h.frame rfl rfl (.refl _) rfl (.refl _) (List.eraseIdx_sublist _ _)

theorem Closed.step {a : Action} (h : Closed s₁ s) (hs : s.step a = some s') : Closed s₁ s' := by
  cases a with
  | acquire ctx =>
    rw [h.not_acquire] at hs
    cases hs
  | release ctx c =>
    obtain ⟨t, hck, rfl⟩ := release_cases (release_of_step hs)
    exact (h.checkIn hck).same rfl rfl rfl rfl
  | closeConn c =>
    obtain rfl := closeConn_of_step hs
    exact h.same rfl rfl rfl rfl
  | closePool =>
    rw [h.not_closePool] at hs
    cases hs
  | insert i =>
    obtain ⟨r, -, rfl⟩ := Option.map_eq_some_iff.1 hs
    exact h.frame rfl rfl (.refl _) rfl (List.eraseIdx_sublist _ _) (.refl _)
  | spawn c =>
    obtain ⟨k, -, -, ⟨-, rfl⟩ | ⟨-, rfl⟩⟩ := spawn_cases hs <;> exact h.same rfl rfl rfl rfl
  | dial c failure =>
    obtain ⟨k, -, -, ⟨-, rfl⟩ | ⟨msg, -, rfl⟩⟩ := dial_cases hs
    · exact h.frame rfl rfl (.refl _) rfl (.refl _) (.refl _)
    · exact h.same rfl rfl rfl rfl
  | settle c =>
    obtain ⟨k, e, -, -, rfl⟩ := settle_cases hs
    -- a closed pool admits nobody into the freed slot
    obtain ⟨hn, hc, hw, ha⟩ := Pool.dropFailed_of_closed (c := c) h.closed
    rw [hn]
    cases e <;> exact h.frame (hc.trans h.closed.symm) hw (ha ▸ .refl _) (by simp [admitNext])
      (by simp [admitNext]) (.refl _)
  | finish c =>
    obtain ⟨k, -, -, rfl⟩ := finish_cases hs
    exact h.same rfl rfl rfl rfl
  | free c =>
    obtain ⟨k, -, -, rfl⟩ := free_cases hs
    obtain ⟨hn, hc, hw, ha⟩ := Pool.freeSlot_of_closed (c := c) h.closed
    rw [hn]
    exact h.frame (hc.trans h.closed.symm) hw ha (by simp [admitNext]) (by simp [admitNext])
      (.refl _)
  | handOff i =>
    obtain ⟨c, r, -, hs⟩ := handOff_cases hs
    obtain ⟨-, rfl⟩ | ⟨-, hck | ⟨e, -, rfl⟩⟩ := hs
    · exact (h.takeHandOff i c r).same rfl rfl rfl rfl
    · exact (h.takeHandOff i c r).checkIn hck
    · exact h.takeHandOff i c r
  | retire i =>
    obtain ⟨c, -, rfl⟩ := Option.map_eq_some_iff.1 hs
    exact h.same rfl rfl rfl rfl
  | notify i =>
    obtain ⟨r, -, rfl⟩ := Option.map_eq_some_iff.1 hs
    dsimp only
    split <;> exact h.same rfl rfl rfl rfl
  | deliver i =>
    obtain ⟨⟨r, a⟩, -, rfl⟩ := Option.map_eq_some_iff.1 hs
    exact h.same rfl rfl rfl rfl
  | destroy ctx => cases hs; exact h.same rfl rfl rfl rfl
  | shutdown => cases hs; exact h.same rfl rfl rfl rfl

/-! ### Requests waiting at the close -/

/-- How often request `r` is told something: notices of close due to it, answers posted for it,
    and answers run for it. -/
def notified (s : Sys) (r : Request) : Nat :=
  s.notices.count r + s.inbox.countP (·.1 == r) + s.answers.countP (·.1 == r)

/-- A request that waited at the close: served only by being told that the pool closed, told at
    most once, and once while its context can take work. -/
structure Told (r : Request) (s : Sys) : Prop where
  admitted : r ∉ s.admitted
  handOffs : r ∉ s.handOffs.map (·.2)
  conns : r ∉ s.conns.map (·.req)
  holders : r ∉ s.holders.map (·.1)
  closedOnly : ∀ a, (r, a) ∈ s.inbox ∨ (r, a) ∈ s.answers → a = .error .poolClosed
  once : s.notified r ≤ 1
  told : s.alive r.ctx = true → s.notified r = 1

section Told

variable {r : Request}

theorem countP_fst_eq_zero {β : Type} {l : List (Request × β)} (h : r ∉ l.map (·.1)) :
    l.countP (·.1 == r) = 0 :=
  List.countP_eq_zero.2 fun x hx he => h (by rw [← beq_iff_eq.1 he]; exact List.mem_map_of_mem hx)

/-- Right after the close, each request that waited has exactly one notice due and nothing
    else. -/
theorem told_closePool {s₀ : Sys} (hu : Untouched s₀) (hf : Fifo s₀) (hc : s₀.closePool = some s₁)
    (hr : r ∈ s₀.queue) : Told r s₁ := by
  obtain ⟨-, rfl⟩ := closePool_cases hc
  have hns := hu.apart r hr
  simp only [served, List.mem_append, not_or] at hns
  obtain ⟨⟨⟨⟨⟨⟨hA, hO⟩, hI⟩, hAns⟩, hN⟩, hC⟩, hH⟩ := hns
  have hn : ({ s₀ with notices := s₀.notices ++ s₀.queue } : Sys).notified r = 1 := by
    simp only [notified, List.count_append, List.count_eq_one_of_mem hf.nodup hr,
      List.count_eq_zero_of_not_mem hN, countP_fst_eq_zero hI, countP_fst_eq_zero hAns]
  refine ⟨hA, hO, hC, hH, fun a ha => ?_, Nat.le_of_eq hn, fun _ => hn⟩
  rcases ha with ha | ha
  · exact absurd (List.mem_map_of_mem (f := (·.1)) ha) hI
  · exact absurd (List.mem_map_of_mem (f := (·.1)) ha) hAns

/-- A state that serves `r` no more than `s` does, tells it as often, and tells it nothing but
    what `s` told it or the close error, keeps it told. -/
theorem Told.retell {t : Sys} (h : Told r s)
    (hA : r ∈ t.admitted → r ∈ s.admitted)
    (hO : r ∈ t.handOffs.map (·.2) → r ∈ s.handOffs.map (·.2))
    (hC : r ∈ t.conns.map (·.req) → r ∈ s.conns.map (·.req))
    (hH : r ∈ t.holders.map (·.1) → r ∈ s.holders.map (·.1))
    (hI : ∀ a, (r, a) ∈ t.inbox ∨ (r, a) ∈ t.answers →
      (r, a) ∈ s.inbox ∨ (r, a) ∈ s.answers ∨ a = .error .poolClosed)
    (hn : t.notified r = s.notified r) (hal : t.alive r.ctx = true → s.alive r.ctx = true) :
    Told r t := by
  refine ⟨fun hr => h.admitted (hA hr), fun hr => h.handOffs (hO hr), fun hr => h.conns (hC hr),
    fun hr => h.holders (hH hr), fun a ha => ?_, hn ▸ h.once, fun ha => hn ▸ h.told (hal ha)⟩
  rcases hI a ha with hs | hs | rfl
  · exact h.closedOnly a (.inl hs)
  · exact h.closedOnly a (.inr hs)
  · rfl

/-- The frame: a state that serves and tells `r` no more than `s` does, and as often. -/
theorem Told.frame {t : Sys} (h : Told r s)
    (hA : r ∈ t.admitted → r ∈ s.admitted)
    (hO : r ∈ t.handOffs.map (·.2) → r ∈ s.handOffs.map (·.2))
    (hC : r ∈ t.conns.map (·.req) → r ∈ s.conns.map (·.req))
    (hH : r ∈ t.holders.map (·.1) → r ∈ s.holders.map (·.1))
    (hI : ∀ a, (r, a) ∈ t.inbox ∨ (r, a) ∈ t.answers → (r, a) ∈ s.inbox ∨ (r, a) ∈ s.answers)
    (hn : t.notified r = s.notified r) (hal : t.alive r.ctx = true → s.alive r.ctx = true) :
    Told r t :=
  h.retell hA hO hC hH (fun a ha => (hI a ha).imp_right .inl) hn hal

theorem Told.same {t : Sys} (h : Told r s) (hA : t.admitted = s.admitted) (hO : t.handOffs = s.handOffs)
    (hC : t.conns = s.conns) (hH : t.holders = s.holders) (hN : t.notices = s.notices)
    (hI : t.inbox = s.inbox) (hAns : t.answers = s.answers) (hal : t.alive r.ctx = s.alive r.ctx) :
    Told r t :=
  h.frame (hA ▸ id) (hO ▸ id) (hC ▸ id) (hH ▸ id) (fun _ => by rw [hI, hAns]; exact id)
    (by simp only [notified, hN, hI, hAns]) (hal ▸ id)

/-- The requester of a connection did not wait at the close. -/
theorem Told.req_ne {c : Nat} {k : Conn} (h : Told r s) (hk : s.conn? c = some k) : k.req ≠ r :=
  fun he => h.conns (he ▸ List.mem_map_of_mem (mem_conns_of_conn? hk))

theorem Told.modifyConn {c : Nat} {f : Conn → Conn} (h : Told r s) (hf : ∀ k, (f k).req = k.req) :
    Told r (s.modifyConn c f) :=
  h.frame id id (fun hr => by rwa [conns_req_modifyConn s c hf] at hr) id (fun _ => id) rfl id

/-- Answering another request tells `r` nothing. -/
theorem Told.answer {r' : Request} {a : Except Error Nat} (h : Told r s) (hne : r' ≠ r) :
    Told r (s.answer r' a) := by
  have hne' : (r' == r) = false := beq_false_of_ne hne
  refine h.frame id id id (fun hr => ?_) (fun a' ha => ?_) ?_ id
  · cases a <;> simp only [holders_answer_ok, holders_answer_error, List.map_append,
      List.mem_append, List.mem_map, List.mem_singleton] at hr ⊢ <;> grind
  · simp only [answers_answer, inbox_answer, List.mem_append, List.mem_singleton,
      Prod.mk.injEq] at ha
    grind
  · simp [notified, hne']

/-- Posting an answer to another request tells `r` nothing. -/
theorem Told.post {r' : Request} {a : Except Error Nat} (h : Told r s) (hne : r' ≠ r) :
    Told r { s with inbox := s.inbox ++ [(r', a)] } := by
  have hne' : (r' == r) = false := beq_false_of_ne hne
  refine h.frame id id id id (fun a' ha => ?_) ?_ id
  · simp only [List.mem_append, List.mem_singleton, Prod.mk.injEq] at ha
    grind
  · simp [notified, List.countP_append, hne']

theorem Told.admitNext_none (h : Told r s) : Told r (s.admitNext none) :=
  h.same (by simp [admitNext]) rfl rfl rfl rfl rfl rfl rfl

theorem Told.checkIn {c : Nat} {caller : Option ContextId} (h : Told r s) (hc : Closed s₁ s)
    (hs : s.checkIn c caller = .ok s') : Told r s' := by
  obtain rfl := hc.checkIn_retires hs
  exact h.same rfl rfl rfl rfl rfl rfl rfl rfl

/-- Taking a notice: `r`'s own notice becomes the close error posted to it, or is dropped
    with its context; another request's notice leaves `r` as it was. -/
theorem Told.notify {i : Nat} (h : Told r s) (hs : s.notify i = some s') : Told r s' := by
  obtain ⟨r', hi, rfl⟩ := Option.map_eq_some_iff.1 hs
  -- the notices due to `r` drop by one exactly when the notice taken is `r`'s
  have hN : (s.notices.eraseIdx i).count r + (if r' == r then 1 else 0) = s.notices.count r :=
    countP_eraseIdx (· == r) s.notices i r' hi
  dsimp only
  by_cases he : r' = r
  · subst he
    simp only [beq_self_eq_true, if_true] at hN
    split
    · -- the notice becomes the close error posted to `r`
      have hn : notified { s with
          notices := s.notices.eraseIdx i, inbox := s.inbox ++ [(r', .error .poolClosed)] } r' =
          s.notified r' := by
        simp [notified]
        omega
      refine h.retell id id id id (fun a ha => ?_) hn id
      simp only [List.mem_append, List.mem_singleton, Prod.mk.injEq] at ha
      rcases ha with (ha | ⟨-, rfl⟩) | ha
      · exact .inl ha
      · exact .inr (.inr rfl)
      · exact .inr (.inl ha)
    · -- `r`'s context is gone: the notice is dropped, and `r` is owed nothing more
      rename_i hal
      have hle : ({ s with notices := s.notices.eraseIdx i } : Sys).notified r' ≤ s.notified r' := by
        simp only [notified]
        omega
      exact ⟨h.admitted, h.handOffs, h.conns, h.holders, h.closedOnly,
        Nat.le_trans hle h.once, fun hal' => absurd hal' hal⟩
  · have hN' : (s.notices.eraseIdx i).count r = s.notices.count r := by simpa [he] using hN
    have ht₀ : Told r { s with notices := s.notices.eraseIdx i } :=
      h.frame id id id id (fun _ => id) (by simp only [notified, hN']) id
    split
    · exact ht₀.post he
    · exact ht₀

/-- Running a posted answer: `r`'s own is the close error, which moves to the answers run
    and gives no connection; another request's answer leaves `r` as it was. -/
theorem Told.deliver {i : Nat} (h : Told r s) (hs : s.deliver i = some s') : Told r s' := by
  obtain ⟨⟨r', a⟩, hi, rfl⟩ := Option.map_eq_some_iff.1 hs
  have hI : (s.inbox.eraseIdx i).countP (·.1 == r) + (if r' == r then 1 else 0) =
      s.inbox.countP (·.1 == r) :=
    countP_eraseIdx (·.1 == r) s.inbox i (r', a) hi
  dsimp only
  by_cases he : r' = r
  · subst he
    -- what `r` was posted is the close error, so it takes no connection
    obtain rfl := h.closedOnly a (.inl (List.mem_of_getElem? hi))
    simp only [beq_self_eq_true, if_true] at hI
    have hn : notified ({ s with inbox := s.inbox.eraseIdx i }.answer r' (.error .poolClosed)) r' =
        s.notified r' := by
      simp [notified]
      omega
    refine h.retell id id id (fun hr => by simpa using hr) (fun a ha => ?_) hn id
    simp only [answers_answer, inbox_answer, List.mem_append, List.mem_singleton,
      Prod.mk.injEq] at ha
    rcases ha with ha | ha | ⟨-, rfl⟩
    · exact .inl (List.mem_of_mem_eraseIdx ha)
    · exact .inr (.inl ha)
    · exact .inr (.inr rfl)
  · have hI' : (s.inbox.eraseIdx i).countP (·.1 == r) = s.inbox.countP (·.1 == r) := by
      simpa [he] using hI
    have ht₀ : Told r { s with inbox := s.inbox.eraseIdx i } :=
      h.frame id id id id (fun a ha => ha.imp_left List.mem_of_mem_eraseIdx)
        (by simp only [notified, hI']) id
    exact ht₀.answer he

/-- Every step after the close keeps each request that waited at it told. -/
theorem Told.step {a : Action} (h : Told r s) (hc : Closed s₁ s) (hs : s.step a = some s') :
    Told r s' := by
  cases a with
  | acquire ctx =>
    rw [hc.not_acquire] at hs
    cases hs
  | release ctx c =>
    -- the release drops holders, which only helps
    obtain ⟨t, hck, rfl⟩ := release_cases (release_of_step hs)
    exact (h.checkIn hc hck).frame id id id (fun hr => List.map_subset _ (List.filter_subset_self _) hr)
      (fun _ => id) rfl id
  | closeConn c =>
    obtain rfl := closeConn_of_step hs
    exact h.modifyConn fun k => k.close_keeps.2
  | closePool =>
    rw [hc.not_closePool] at hs
    cases hs
  | insert i =>
    obtain ⟨r', hr', rfl⟩ := Option.map_eq_some_iff.1 hs
    -- the request given a connection was admitted, so it is not `r`
    have hne : r ≠ r' := fun he => h.admitted (he ▸ List.mem_of_getElem? hr')
    refine h.frame List.mem_of_mem_eraseIdx id (fun hr => ?_) id (fun _ => id) rfl id
    simp only [List.map_append, List.map_cons, List.map_nil, List.mem_append,
      List.mem_singleton] at hr
    exact hr.resolve_right hne
  | spawn c =>
    obtain ⟨k, -, -, ⟨-, rfl⟩ | ⟨-, rfl⟩⟩ := spawn_cases hs <;> exact h.modifyConn fun _ => rfl
  | dial c failure =>
    obtain ⟨k, hk, -, ⟨-, rfl⟩ | ⟨msg, -, rfl⟩⟩ := dial_cases hs
    · -- the requester of an opening connection is not `r`, and is told that the pool closed
      rw [if_pos hc.closed]
      have hY : Told r { s with pool := { s.pool with created := s.pool.created + 1 } } :=
        h.same rfl rfl rfl rfl rfl rfl rfl rfl
      exact (hY.answer (h.req_ne hk)).modifyConn fun _ => rfl
    · exact h.modifyConn fun _ => rfl
  | settle c =>
    obtain ⟨k, e, hk, -, rfl⟩ := settle_cases hs
    have hX : Told r { s.modifyConn c ({ · with stage := .done }) with
        pool := (s.pool.dropFailed c).2 } :=
      (h.modifyConn (f := ({ · with stage := .done })) fun _ => rfl).same rfl rfl rfl rfl rfl rfl
        rfl rfl
    rw [(Pool.dropFailed_of_closed (c := c) hc.closed).1]
    cases e with
    | some e => exact (hX.answer (h.req_ne hk)).admitNext_none
    | none => exact hX.admitNext_none
  | finish c =>
    obtain ⟨k, -, -, rfl⟩ := finish_cases hs
    exact h.modifyConn fun k => k.finishClose_keeps.2.1
  | free c =>
    obtain ⟨k, -, -, rfl⟩ := free_cases hs
    have hX : Told r { s.modifyConn c ({ · with stage := .done }) with
        pool := (s.pool.freeSlot c).2 } :=
      (h.modifyConn (f := ({ · with stage := .done })) fun _ => rfl).same rfl rfl rfl rfl rfl rfl
        rfl rfl
    rw [(Pool.freeSlot_of_closed (c := c) hc.closed).1]
    exact hX.admitNext_none
  | handOff i =>
    obtain ⟨c, r', hi, hs⟩ := handOff_cases hs
    -- the request the connection is handed to waits in the hand-off list, so it is not `r`
    have hne : r' ≠ r := fun he =>
      h.handOffs (he ▸ List.mem_map_of_mem (f := (·.2)) (List.mem_of_getElem? hi))
    have hu : Told r { s.modifyConn c ({ · with owner := r'.ctx }) with
        handOffs := s.handOffs.eraseIdx i, pool := { s.pool with reused := s.pool.reused + 1 } } :=
      (h.modifyConn (f := ({ · with owner := r'.ctx })) fun _ => rfl).frame id
        (fun hr => ((List.eraseIdx_sublist _ _).map _).subset hr) id id (fun _ => id) rfl id
    obtain ⟨-, rfl⟩ | ⟨-, hck | ⟨e, -, rfl⟩⟩ := hs
    · exact hu.post hne
    · exact hu.checkIn (hc.takeHandOff i c r') hck
    · exact hu
  | retire i =>
    obtain ⟨c, -, rfl⟩ := Option.map_eq_some_iff.1 hs
    exact (h.modifyConn fun k => k.close_keeps.2).same rfl rfl rfl rfl rfl rfl rfl rfl
  | notify i => exact h.notify hs
  | deliver i => exact h.deliver hs
  | destroy ctx =>
    cases hs
    refine h.frame id id id id (fun _ => id) rfl fun hal => ?_
    simp only [alive, List.contains_append, Bool.not_or, Bool.and_eq_true] at hal
    simp only [alive, Bool.and_eq_true]
    exact ⟨hal.1, hal.2.1⟩
  | shutdown =>
    cases hs
    exact h.frame id id id id (fun _ => id) rfl fun hal => by simp [alive] at hal

end Told

/-! ### Connections live at the close -/

/-- Each connection of `L` is asked to close: its close is still due, or it is no longer open. -/
def Asked (L : List Nat) (s : Sys) : Prop :=
  ∀ c ∈ L, ∃ k, s.conn? c = some k ∧ (c ∈ s.closing ∨ k.state.isOpen = false)

section Asked

variable {L : List Nat}

/-- Right after the close, each live connection's close is due. -/
theorem asked_closePool (hsl : SlotInv s) (hc : s.closePool = some s₁) : Asked s.pool.liveIds s₁ := by
  obtain ⟨-, rfl⟩ := closePool_cases hc
  intro c hc'
  obtain ⟨k, hk, -⟩ := (hsl.live c).1 hc'
  exact ⟨k, hk, .inl (List.mem_append_right _ hc')⟩

theorem Asked.frame {t : Sys} (h : Asked L s) (hC : ∀ c k, s.conn? c = some k → t.conn? c = some k)
    (hcl : s.closing ⊆ t.closing) : Asked L t := fun c hc => by
  obtain ⟨k, hk, hor⟩ := h c hc
  exact ⟨k, hC c k hk, hor.imp_left fun hm => hcl hm⟩

theorem Asked.same {t : Sys} (h : Asked L s) (hC : t.conns = s.conns) (hcl : t.closing = s.closing) :
    Asked L t :=
  h.frame (fun c _ hk => (conn?_of_conns hC c).trans hk) (by rw [hcl]; exact List.Subset.refl _)

/-- A connection update that never reopens a connection keeps every connection asked. -/
theorem Asked.modifyConn {c : Nat} {f : Conn → Conn} (h : Asked L s)
    (hf : ∀ k, k.state.isOpen = false → (f k).state.isOpen = false) :
    Asked L (s.modifyConn c f) := fun c' hc' => by
  obtain ⟨k, hk, hor⟩ := h c' hc'
  rw [conn?_modifyConn]
  split
  · exact ⟨f k, by rw [hk]; rfl, hor.imp id (hf k)⟩
  · exact ⟨k, hk, hor⟩

/-- A new connection leaves the others as they are. -/
theorem Asked.append {t : Sys} {k : Conn} (h : Asked L s) (hC : t.conns = s.conns ++ [k])
    (hcl : t.closing = s.closing) : Asked L t :=
  h.frame (fun _ _ hk => conn?_append_of_some hC hk) (by rw [hcl]; exact List.Subset.refl _)

/-- The close loop closes the connection it takes; the others stay due. -/
theorem Asked.retire {i c : Nat} (h : Asked L s) (hi : s.closing[i]? = some c) :
    Asked L { s.modifyConn c Conn.close with closing := s.closing.eraseIdx i } := fun c' hc' => by
  obtain ⟨k, hk, hor⟩ := h c' hc'
  by_cases he : c' = c
  · subst he
    refine ⟨k.close, ?_, .inr k.close_not_open⟩
    show (s.modifyConn c' Conn.close).conn? c' = some k.close
    simp [hk]
  · refine ⟨k, (conn?_modifyConn_of_ne s Conn.close he).trans hk, hor.imp_left fun hm => ?_⟩
    -- only the entry taken, which is `c`'s, leaves the list of closes due
    have hcnt : (s.closing.eraseIdx i).count c' + (if c == c' then 1 else 0) = s.closing.count c' :=
      countP_eraseIdx (· == c') s.closing i c hi
    have hcnt' : (s.closing.eraseIdx i).count c' = s.closing.count c' := by
      simpa [beq_false_of_ne (Ne.symm he)] using hcnt
    exact List.count_pos_iff.1 (hcnt' ▸ List.count_pos_iff.2 hm)

theorem Asked.checkIn {c : Nat} {caller : Option ContextId} (h : Asked L s) (hc : Closed s₁ s)
    (hs : s.checkIn c caller = .ok s') : Asked L s' := by
  obtain rfl := hc.checkIn_retires hs
  exact h.frame (fun _ _ => id) (List.subset_append_left _ _)

/-- Every step after the close keeps each connection live at the close asked. -/
theorem Asked.step {a : Action} (h : Asked L s) (hc : Closed s₁ s) (hs : s.step a = some s') :
    Asked L s' := by
  cases a with
  | acquire ctx =>
    rw [hc.not_acquire] at hs
    cases hs
  | release ctx c =>
    obtain ⟨t, hck, rfl⟩ := release_cases (release_of_step hs)
    exact (h.checkIn hc hck).same rfl rfl
  | closeConn c =>
    obtain rfl := closeConn_of_step hs
    exact h.modifyConn fun k _ => k.close_not_open
  | closePool =>
    rw [hc.not_closePool] at hs
    cases hs
  | insert i =>
    obtain ⟨r, -, rfl⟩ := Option.map_eq_some_iff.1 hs
    exact h.append rfl rfl
  | spawn c =>
    obtain ⟨k, -, -, ⟨-, rfl⟩ | ⟨-, rfl⟩⟩ := spawn_cases hs
    · exact h.modifyConn fun _ => id
    · exact h.modifyConn fun _ _ => rfl
  | dial c failure =>
    obtain ⟨k, -, -, ⟨-, rfl⟩ | ⟨msg, -, rfl⟩⟩ := dial_cases hs
    · exact Asked.modifyConn (h.same rfl rfl) fun _ => Conn.activate_not_open
    · exact h.modifyConn fun _ _ => rfl
  | settle c =>
    obtain ⟨k, e, -, -, rfl⟩ := settle_cases hs
    cases e <;> exact Asked.same (h.modifyConn (c := c) (f := ({ · with stage := .done }))
      fun _ => id) rfl rfl
  | finish c =>
    obtain ⟨k, -, -, rfl⟩ := finish_cases hs
    exact h.modifyConn fun _ => Conn.finishClose_not_open
  | free c =>
    obtain ⟨k, -, -, rfl⟩ := free_cases hs
    exact Asked.same (h.modifyConn (c := c) (f := ({ · with stage := .done })) fun _ => id) rfl rfl
  | handOff i =>
    obtain ⟨c, r, -, hs⟩ := handOff_cases hs
    have hu : Asked L { s.modifyConn c ({ · with owner := r.ctx }) with
        handOffs := s.handOffs.eraseIdx i, pool := { s.pool with reused := s.pool.reused + 1 } } :=
      Asked.same (h.modifyConn (c := c) (f := ({ · with owner := r.ctx })) fun _ => id) rfl rfl
    obtain ⟨-, rfl⟩ | ⟨-, hck | ⟨e, -, rfl⟩⟩ := hs
    · exact hu.same rfl rfl
    · exact hu.checkIn (hc.takeHandOff i c r) hck
    · exact hu
  | retire i =>
    obtain ⟨c, hi, rfl⟩ := Option.map_eq_some_iff.1 hs
    exact h.retire hi
  | notify i =>
    obtain ⟨r, -, rfl⟩ := Option.map_eq_some_iff.1 hs
    dsimp only
    split <;> exact h.same rfl rfl
  | deliver i =>
    obtain ⟨⟨r, a⟩, -, rfl⟩ := Option.map_eq_some_iff.1 hs
    exact h.same rfl rfl
  | destroy ctx => cases hs; exact h.same rfl rfl
  | shutdown => cases hs; exact h.same rfl rfl

end Asked

end Sys

open Sys

end PoolSystem

end Affinity
