import Affinity.Machine.Pool
/-!
The decisions of a pool, one lemma each.

A pool decides under its lock: `grant` admits a request, `checkIn` takes a connection back
(through `keepOrRetire`), `nextWaiter` hands a free slot on, and `freeSlot` and `dropFailed`
give a slot back. Each `_cases` lemma below says everything a decision can do, the conditions it
tests and the record it returns, so that what is proved about pools in use never opens the
decisions again. `Pool.liveIds` lists the live connections.
-/

namespace Affinity

namespace Pool

/-- The live connections. -/
def liveIds (p : Pool) : List Nat := p.live.map (·.1)

section Lease

variable (p : Pool) (c : Nat) (l : Lease)

@[simp] theorem setLease_active : (p.setLease c l).active = p.active := rfl
@[simp] theorem setLease_waiters : (p.setLease c l).waiters = p.waiters := rfl
@[simp] theorem setLease_available : (p.setLease c l).available = p.available := rfl
@[simp] theorem setLease_closed : (p.setLease c l).closed = p.closed := rfl
@[simp] theorem setLease_config : (p.setLease c l).config = p.config := rfl

@[simp] theorem length_live_setLease : (p.setLease c l).live.length = p.live.length := by
  simp [setLease]

@[simp] theorem liveIds_setLease : (p.setLease c l).liveIds = p.liveIds := by
  simp only [liveIds, setLease, List.map_map]
  apply List.map_congr_left
  intro e _
  by_cases h : e.1 = c <;> simp [h]

@[simp] theorem track_active (ctx : ContextId) : (p.track c ctx).active = p.active := rfl
@[simp] theorem track_waiters (ctx : ContextId) : (p.track c ctx).waiters = p.waiters := rfl
@[simp] theorem track_config (ctx : ContextId) : (p.track c ctx).config = p.config := rfl

@[simp] theorem liveIds_track (ctx : ContextId) : (p.track c ctx).liveIds = p.liveIds ++ [c] := by
  simp [liveIds, track]

@[simp] theorem length_live_track (ctx : ContextId) : (p.track c ctx).live.length = p.live.length + 1 := by
  simp [track]

theorem leaseOf_isSome_iff : (p.leaseOf c).isSome ↔ c ∈ p.liveIds := by
  simp [leaseOf, liveIds, List.find?_isSome]

theorem leaseOf_setLease (c' : Nat) :
    (p.setLease c l).leaseOf c' = if c' = c then (p.leaseOf c).map fun _ => l else p.leaseOf c' := by
  -- updating a lease keeps every connection's number, so the search finds the same entry
  have hkey : ((·.1 == c') ∘ fun e : Nat × Lease => if e.1 == c then (c, l) else e) = (·.1 == c') := by
    funext e
    by_cases he : e.1 = c <;> simp [he]
  unfold leaseOf setLease
  rw [List.find?_map, hkey, Option.map_map]
  split
  · rename_i h
    subst h
    cases hf : p.live.find? (·.1 == c') with
    | none => rfl
    | some e =>
      have he : e.1 = c' := by simpa using List.find?_some hf
      simp [he]
  · rename_i h
    cases hf : p.live.find? (·.1 == c') with
    | none => rfl
    | some e =>
      have he : e.1 = c' := by simpa using List.find?_some hf
      simp [he, h]

theorem leaseOf_track (c' : Nat) (ctx : ContextId) :
    (p.track c ctx).leaseOf c' = (p.leaseOf c').or (if c' = c then some (.held ctx) else none) := by
  unfold leaseOf track
  rw [List.find?_append, Option.map_or]
  by_cases h : c' = c
  · subst h; simp
  · have : (c == c') = false := by simpa using Ne.symm h
    simp [h, this]

end Lease

section Forget

variable (p : Pool) (c : Nat)

@[simp] theorem forget_active : (p.forget c).active = p.active - 1 := rfl
@[simp] theorem forget_waiters : (p.forget c).waiters = p.waiters := rfl
@[simp] theorem forget_available : (p.forget c).available = p.available := rfl
@[simp] theorem forget_closed : (p.forget c).closed = p.closed := rfl
@[simp] theorem forget_config : (p.forget c).config = p.config := rfl

theorem leaseOf_forget_of_ne {c' : Nat} (h : c' ≠ c) : (p.forget c).leaseOf c' = p.leaseOf c' := by
  unfold leaseOf forget
  rw [List.find?_filter]
  congr 2
  funext e
  by_cases he : e.1 = c' <;> simp [he, h]

@[simp] theorem liveIds_forget : (p.forget c).liveIds = p.liveIds.filter (· != c) := by
  simp [liveIds, forget, List.filter_map, Function.comp_def]

/-- Forgetting a live connection takes exactly one entry out of `live`. -/
theorem length_live_forget (hn : p.liveIds.Nodup) (hc : c ∈ p.liveIds) :
    (p.forget c).live.length + 1 = p.live.length := by
  have h := List.length_erase_of_mem hc
  rw [hn.erase_eq_filter, ← liveIds_forget] at h
  simp only [liveIds, List.length_map] at h
  have : 0 < p.live.length := by
    simpa [liveIds] using List.length_pos_of_mem hc
  omega

end Forget

section Decide

variable {p q : Pool} {ctx : ContextId} {c : Nat}

theorem grant_closed (h : p.closed = true) : p.grant ctx = .error .poolClosed := by
  simp [grant, h]

/-- Everything admission can decide: hand over the oldest idle connection, open a new one
    (for the oldest waiter, if there is one) while a slot is free, or queue the request. -/
theorem grant_cases {d : Admission} (h : p.grant ctx = .ok (d, q)) :
    p.closed = false ∧
    ((∃ c rest, p.available = c :: rest ∧ d = .reuse c ∧
        q = { p.setLease c (.held ctx) with available := rest }) ∨
     (p.available = [] ∧ p.active < p.config.maxSize ∧
       ((∃ w ws, p.waiters = w :: ws ∧ d = .connect w ∧
          q = { p with active := p.active + 1, waiters := ws ++ [ctx] }) ∨
        (p.waiters = [] ∧ d = .connect ctx ∧ q = { p with active := p.active + 1 }))) ∨
     (p.available = [] ∧ p.config.maxSize ≤ p.active ∧ d = .queued ∧
        q = { p with waiters := p.waiters ++ [ctx] })) := by
  unfold grant at h
  split at h
  · cases h
  · refine ⟨by simpa using ‹¬p.closed = true›, ?_⟩
    split at h
    · cases h
      exact .inl ⟨_, _, ‹_›, rfl, rfl⟩
    · split at h
      · split at h <;> cases h
        · exact .inr (.inl ⟨‹_›, ‹_›, .inl ⟨_, _, ‹_›, rfl, rfl⟩⟩)
        · exact .inr (.inl ⟨‹_›, ‹_›, .inr ⟨‹_›, rfl, rfl⟩⟩)
      · cases h
        exact .inr (.inr ⟨‹_›, by omega, rfl, rfl⟩)

/-- Everything a check-in that passed the lease checks can decide: retire the connection (the
    pool closed, or no reuse), hand it to the oldest waiter, or keep it idle. -/
theorem keepOrRetire_cases {o k : Bool} {d : CheckIn} (h : p.keepOrRetire c o k = .ok (d, q)) :
    o = true ∧
    ((p.closed = true ∨ k = false) ∧ d = .close ∧ q = p.setLease c .retired ∨
     p.closed = false ∧ k = true ∧
       ((∃ w ws, p.waiters = w :: ws ∧ d = .handOff w ∧
          q = { p.setLease c (.held w) with waiters := ws }) ∨
        (p.waiters = [] ∧ d = .idle ∧ q = { p.setLease c .idle with available := p.available ++ [c] }))) := by
  unfold keepOrRetire at h
  split at h
  · cases h
  · rename_i ho
    refine ⟨by simpa using ho, ?_⟩
    split at h
    · rename_i hr
      cases h
      exact .inl ⟨by simpa [Bool.or_eq_true] using hr, rfl, rfl⟩
    · rename_i hr
      have hk : p.closed = false ∧ k = true := by simpa [Bool.or_eq_true] using hr
      split at h <;> cases h
      · exact .inr ⟨hk.1, hk.2, .inl ⟨_, _, ‹_›, rfl, rfl⟩⟩
      · exact .inr ⟨hk.1, hk.2, .inr ⟨‹_›, rfl, rfl⟩⟩

/-- A check-in passes the lease checks only for a connection held by the caller (any holder,
    when the pool recycles it itself); the rest is `keepOrRetire`. -/
theorem checkIn_cases {caller : Option ContextId} {o k : Bool} {d : CheckIn}
    (h : p.checkIn c caller o k = .ok (d, q)) :
    (∃ holder, p.leaseOf c = some (.held holder) ∧ (caller = none ∨ caller = some holder)) ∧
    p.keepOrRetire c o k = .ok (d, q) := by
  unfold checkIn at h
  split at h
  · cases h
  · split at h
    · split at h
      · cases h
      · rename_i hc
        exact ⟨⟨_, ‹_›, .inr (by simpa [eq_comm] using hc)⟩, h⟩
    · exact ⟨⟨_, ‹_›, .inl rfl⟩, h⟩
  · cases h

/-- A free slot goes to the oldest waiter when the pool is open and below its size. -/
theorem nextWaiter_cases {next : Option ContextId} (h : p.nextWaiter = (next, q)) :
    (next = none ∧ q = p ∧ (p.closed = true ∨ p.config.maxSize ≤ p.active ∨ p.waiters = [])) ∨
    (∃ w ws, p.closed = false ∧ p.active < p.config.maxSize ∧ p.waiters = w :: ws ∧ next = some w ∧
      q = { p with waiters := ws, active := p.active + 1 }) := by
  unfold nextWaiter at h
  split at h
  · rename_i hr
    cases h
    have : p.closed = true ∨ p.config.maxSize ≤ p.active := by simpa [Bool.or_eq_true] using hr
    exact .inl ⟨rfl, rfl, this.imp_right .inl⟩
  · rename_i hr
    have hk : p.closed = false ∧ p.active < p.config.maxSize := by
      simpa [Bool.or_eq_true] using hr
    split at h <;> cases h
    · exact .inr ⟨_, _, hk.1, hk.2, ‹_›, rfl, rfl⟩
    · exact .inl ⟨rfl, rfl, .inr (.inr ‹_›)⟩

@[simp] theorem liveIds_nextWaiter (p : Pool) : p.nextWaiter.2.liveIds = p.liveIds := by
  unfold nextWaiter
  split
  · rfl
  · split <;> rfl

@[simp] theorem leaseOf_nextWaiter (p : Pool) (c : Nat) : p.nextWaiter.2.leaseOf c = p.leaseOf c := by
  unfold nextWaiter
  split
  · rfl
  · split <;> rfl

@[simp] theorem available_nextWaiter (p : Pool) : p.nextWaiter.2.available = p.available := by
  unfold nextWaiter
  split
  · rfl
  · split <;> rfl

theorem nextWaiter_of_closed (h : p.closed = true) : p.nextWaiter = (none, p) := by
  simp [nextWaiter, h]

/-- A closed pool gives the slot of a failed connect to nobody. -/
theorem dropFailed_of_closed (h : p.closed = true) :
    (p.dropFailed c).1 = none ∧ (p.dropFailed c).2.closed = true ∧
      (p.dropFailed c).2.waiters = p.waiters ∧ (p.dropFailed c).2.available = p.available := by
  unfold dropFailed
  split <;> simp [nextWaiter_of_closed, h]

/-- A closed pool gives the slot of a closed connection to nobody. -/
theorem freeSlot_of_closed (h : p.closed = true) :
    (p.freeSlot c).1 = none ∧ (p.freeSlot c).2.closed = true ∧
      (p.freeSlot c).2.waiters = p.waiters ∧ (p.freeSlot c).2.available.Sublist p.available := by
  unfold freeSlot
  split
  · exact ⟨rfl, h, rfl, .refl _⟩
  · rw [nextWaiter_of_closed (show ({ p.forget c with available := p.available.filter (· != c) } :
      Pool).closed = true from h)]
    exact ⟨rfl, h, rfl, List.filter_sublist⟩

theorem freeSlot_of_mem (h : c ∈ p.liveIds) :
    p.freeSlot c = { p.forget c with available := p.available.filter (· != c) }.nextWaiter := by
  have : (p.leaseOf c).isSome := (leaseOf_isSome_iff p c).2 h
  simp [freeSlot, Option.isNone_iff_eq_none, Option.isSome_iff_ne_none.1 this]

theorem dropFailed_of_mem (h : c ∈ p.liveIds) :
    p.dropFailed c = ((p.forget c).nextWaiter.1,
      { (p.forget c).nextWaiter.2 with failed := (p.forget c).nextWaiter.2.failed + 1 }) := by
  have : (p.leaseOf c).isSome := (leaseOf_isSome_iff p c).2 h
  simp [dropFailed, this]

end Decide

end Pool

end Affinity
