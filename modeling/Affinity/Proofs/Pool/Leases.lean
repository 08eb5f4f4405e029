import Affinity.Proofs.Pool.Slots
/-!
Leases of a pool's connections under concurrent callers.

The pool records for each live connection who may release it (`Pool.Lease`), but only as a
context: a release from a context the connection is leased to is accepted whatever request of
that context it comes from. A connection is claimed by the handler that holds it, by an answer
posted with it and not run yet, by a hand-off decided for it and not posted yet, or by its place
among the idle connections (`Sys.claims`).

When every release comes from a context one of whose handlers holds the connection
(`ReachableByHolders`), each connection has at most one claim, the pool's lease names the
context of the request that has it, and a connection is handed to a handler only when no other
handler holds it, owned by the handler's context (`LeaseInv`, `lease_exclusive_for_holders`).

A context that releases the same connection twice, while another of its requests waits, breaks
this: the first release leases the connection to that request, which has not run yet, so the
second release passes the lease check and hands the connection to the next waiter as well
(`double_release_hands_out_twice`).
-/

namespace Affinity

namespace PoolSystem

/-- The requester has not been answered yet: its connection is being spawned or dialled. -/
def Stage.opening : Stage → Bool
  | .spawning | .dialing => true
  | _ => false

namespace Conn

/-- Closing keeps a connection's owner and request, and answers no requester. -/
theorem finishClose_keeps (k : Conn) :
    k.finishClose.owner = k.owner ∧ k.finishClose.req = k.req ∧ k.finishClose.stage.opening = false := by
  unfold finishClose
  split
  · exact ⟨rfl, rfl, rfl⟩
  · exact ⟨rfl, rfl, by split <;> rfl⟩

theorem close_keeps (k : Conn) : k.close.owner = k.owner ∧ k.close.req = k.req := by
  unfold Conn.close
  split <;> exact ⟨rfl, rfl⟩

end Conn

namespace Sys

variable {s s' : Sys}

/-- The claims on connection `c` that are in flight or held: handlers holding it, answers with
    it posted and not run yet, and hand-offs of it decided and not posted yet. -/
def inFlight (s : Sys) (c : Nat) : Nat :=
  s.holders.countP (·.2 == c) + s.inbox.countP (·.2.toOption == some c) +
    s.handOffs.countP (·.1 == c)

/-- All claims on connection `c`: those in flight, and its places among the idle connections. -/
def claims (s : Sys) (c : Nat) : Nat := s.inFlight c + s.pool.available.count c

/-- Request `r` has a claim on connection `c` in flight. -/
def HasClaim (s : Sys) (r : Request) (c : Nat) : Prop :=
  (r, c) ∈ s.holders ∨ (r, .ok c) ∈ s.inbox ∨ (c, r) ∈ s.handOffs

/-- Connection `c` is given to request `r`: its handler holds it, or the answer with it is posted
    to the request's context. -/
def Given (s : Sys) (r : Request) (c : Nat) : Prop := (r, c) ∈ s.holders ∨ (r, .ok c) ∈ s.inbox

theorem Given.hasClaim {r : Request} {c : Nat} (h : s.Given r c) : s.HasClaim r c :=
  h.elim .inl (.inr ∘ .inl)

theorem HasClaim.one_le {r : Request} {c : Nat} (h : s.HasClaim r c) : 1 ≤ s.inFlight c := by
  unfold inFlight
  rcases h with h | h | h
  · have : 0 < s.holders.countP (·.2 == c) := List.countP_pos_iff.2 ⟨_, h, by simp⟩
    omega
  · have : 0 < s.inbox.countP (·.2.toOption == some c) :=
      List.countP_pos_iff.2 ⟨_, h, by simp [Except.toOption]⟩
    omega
  · have : 0 < s.handOffs.countP (·.1 == c) := List.countP_pos_iff.2 ⟨_, h, by simp⟩
    omega

/-- Who may release each connection agrees with who holds it or is about to. -/
structure LeaseInv (s : Sys) : Prop where
  single : ∀ c, s.claims c ≤ 1
  opened : ∀ c, s.claims c ≠ 0 → (s.conn? c).isSome
  held : ∀ c r, c ∈ s.pool.liveIds → s.HasClaim r c → s.pool.leaseOf c = some (.held r.ctx)
  idle : ∀ c, c ∈ s.pool.liveIds → c ∈ s.pool.available → s.pool.leaseOf c = some .idle
  /-- A connection whose requester is not answered yet is unclaimed, owned by and leased to
      the requester's context. -/
  fresh : ∀ c k, s.conn? c = some k → k.stage.opening →
    s.claims c = 0 ∧ k.owner = k.req.ctx ∧ s.pool.leaseOf c = some (.held k.req.ctx)
  /-- A connection given to a request is owned by the request's context. -/
  owned : ∀ r c, s.Given r c → ∃ k, s.conn? c = some k ∧ k.owner = r.ctx

theorem leaseInv_start (endpoint : Endpoint) (config : PoolConfig) (transport : PoolTransport) :
    LeaseInv (start endpoint config transport) := by
  refine ⟨fun c => ?_, fun c h => ?_, fun c r hc _ => ?_, fun c hc _ => ?_, fun c k hk _ => ?_,
    fun r c h => ?_⟩
  · simp [claims, inFlight, start]
  · simp [claims, inFlight, start] at h
  · simp [start, Pool.liveIds] at hc
  · simp [start, Pool.liveIds] at hc
  · cases c <;> simp [start, conn?] at hk
  · rcases h with h | h <;> simp [start] at h

theorem leaseOf_of_live {p q : Pool} (h : q.live = p.live) (c : Nat) : q.leaseOf c = p.leaseOf c := by
  unfold Pool.leaseOf; rw [h]

/-- Leases are kept by a step that keeps the claims, the live connections and the
    connections; answers without a connection may be posted. -/
theorem LeaseInv.frame {t : Sys} (h : LeaseInv s) (hH : t.holders = s.holders)
    (hI : ∀ r c, (r, Except.ok c) ∈ t.inbox ↔ (r, .ok c) ∈ s.inbox)
    (hIc : ∀ c, t.inbox.countP (·.2.toOption == some c) = s.inbox.countP (·.2.toOption == some c))
    (hO : t.handOffs = s.handOffs) (hA : t.pool.available = s.pool.available)
    (hL : t.pool.live = s.pool.live) (hC : t.conns = s.conns) : LeaseInv t := by
  have hcl : ∀ c, t.claims c = s.claims c := fun c => by simp [claims, inFlight, hH, hIc, hO, hA]
  have hhc : ∀ r c, t.HasClaim r c ↔ s.HasClaim r c := fun r c => by simp [HasClaim, hH, hI, hO]
  have hgiven : ∀ r c, t.Given r c ↔ s.Given r c := fun r c => by simp [Given, hH, hI]
  have hids : t.pool.liveIds = s.pool.liveIds := by simp [Pool.liveIds, hL]
  have hconn := conn?_of_conns hC
  refine ⟨fun c => hcl c ▸ h.single c, fun c hc => ?_, fun c r hc hr => ?_, fun c hc ha => ?_,
    fun c k hk ho => ?_, fun r c hr => ?_⟩
  · rw [hconn]; exact h.opened c (hcl c ▸ hc)
  · rw [leaseOf_of_live hL]; exact h.held c r (hids ▸ hc) ((hhc r c).1 hr)
  · rw [leaseOf_of_live hL]; exact h.idle c (hids ▸ hc) (hA ▸ ha)
  · rw [hconn] at hk
    rw [hcl, leaseOf_of_live hL]
    exact h.fresh c k hk ho
  · rw [hconn]; exact h.owned r c ((hgiven r c).1 hr)

theorem LeaseInv.same (h : LeaseInv s) {t : Sys} (hH : t.holders = s.holders) (hI : t.inbox = s.inbox)
    (hO : t.handOffs = s.handOffs) (hA : t.pool.available = s.pool.available)
    (hL : t.pool.live = s.pool.live) (hC : t.conns = s.conns) : LeaseInv t :=
  h.frame hH (fun r c => by rw [hI]) (fun c => by rw [hI]) hO hA hL hC

/-- Updating a connection's lifecycle keeps the leases, when the update keeps its owner and its
    request and never makes an answered requester unanswered again. -/
theorem LeaseInv.modifyConn {c : Nat} {f : Conn → Conn} (h : LeaseInv s)
    (hf : ∀ k, s.conn? c = some k →
      (f k).owner = k.owner ∧ (f k).req = k.req ∧ ((f k).stage.opening → k.stage.opening)) :
    LeaseInv (s.modifyConn c f) := by
  refine ⟨h.single, fun c' hc' => ?_, h.held, h.idle, fun c' k' hk' ho => ?_, fun r c' hr => ?_⟩
  · rw [conn?_modifyConn]
    split
    · simpa using h.opened c' hc'
    · exact h.opened c' hc'
  · rw [conn?_modifyConn] at hk'
    split at hk'
    · rename_i he
      obtain ⟨k, hk, rfl⟩ := Option.map_eq_some_iff.1 hk'
      obtain ⟨hown, hreq, hop⟩ := hf k (he ▸ hk)
      obtain ⟨h1, h2, h3⟩ := h.fresh _ k hk (hop ho)
      exact ⟨h1, by rw [hown, hreq, h2], by rw [hreq]; exact h3⟩
    · exact h.fresh c' k' hk' ho
  · obtain ⟨k, hk, hown⟩ := h.owned r c' hr
    rw [conn?_modifyConn]
    split
    · rename_i he
      rw [he] at hk ⊢
      exact ⟨f k, by simp [hk], by rw [(hf k hk).1, hown]⟩
    · exact ⟨k, hk, hown⟩

/-- A connection whose requester is not answered yet is live. -/
theorem LeaseInv.live_of_opening {c : Nat} {k : Conn} (h : LeaseInv s) (hk : s.conn? c = some k)
    (ho : k.stage.opening) : c ∈ s.pool.liveIds := by
  rw [← Pool.leaseOf_isSome_iff, (h.fresh c k hk ho).2.2]
  rfl

/-- A claimed connection is not one whose requester is still to be answered. -/
theorem LeaseInv.not_opening {c : Nat} {k : Conn} (h : LeaseInv s) (hk : s.conn? c = some k)
    (hc : s.claims c ≠ 0) : k.stage.opening = false := by
  cases ho : k.stage.opening
  · rfl
  · exact absurd (h.fresh c k hk ho).1 hc

/-- Leases are kept by a step that drops claims: fewer holders, answers in flight, hand-offs,
    idle places and live connections (but every connection whose requester waits stays live),
    the same leases for those still live, and the same connections. -/
theorem LeaseInv.shrink {t : Sys} (h : LeaseInv s) (hH : t.holders.Sublist s.holders)
    (hI : t.inbox.Sublist s.inbox) (hO : t.handOffs.Sublist s.handOffs)
    (hA : t.pool.available.Sublist s.pool.available) (hC : t.conns = s.conns)
    (hsub : ∀ c ∈ t.pool.liveIds, c ∈ s.pool.liveIds ∧ t.pool.leaseOf c = s.pool.leaseOf c)
    (hkeep : ∀ c k, s.conn? c = some k → k.stage.opening → c ∈ t.pool.liveIds) : LeaseInv t := by
  have hcl : ∀ c, t.claims c ≤ s.claims c := fun c => by
    have : t.holders.countP (·.2 == c) ≤ s.holders.countP (·.2 == c) := hH.countP_le
    have : t.inbox.countP (·.2.toOption == some c) ≤ s.inbox.countP (·.2.toOption == some c) :=
      hI.countP_le
    have : t.handOffs.countP (·.1 == c) ≤ s.handOffs.countP (·.1 == c) := hO.countP_le
    have := hA.count_le c
    simp only [claims, inFlight]
    omega
  have hhc : ∀ r c, t.HasClaim r c → s.HasClaim r c := fun r c hr => by
    rcases hr with hr | hr | hr
    · exact .inl (hH.subset hr)
    · exact .inr (.inl (hI.subset hr))
    · exact .inr (.inr (hO.subset hr))
  have hconn := conn?_of_conns hC
  refine ⟨fun c => Nat.le_trans (hcl c) (h.single c), fun c hc => ?_, fun c r hc hr => ?_,
    fun c hc ha => ?_, fun c k hk ho => ?_, fun r c hr => ?_⟩
  · rw [hconn]; exact h.opened c (by have := hcl c; omega)
  · rw [(hsub c hc).2]; exact h.held c r (hsub c hc).1 (hhc r c hr)
  · rw [(hsub c hc).2]; exact h.idle c (hsub c hc).1 (hA.subset ha)
  · rw [hconn] at hk
    obtain ⟨h1, h2, h3⟩ := h.fresh c k hk ho
    refine ⟨by have := hcl c; omega, h2, ?_⟩
    rw [(hsub c (hkeep c k hk ho)).2]; exact h3
  · rw [hconn]; exact h.owned r c (hr.imp (fun h => hH.subset h) (fun h => hI.subset h))

/-- Ending some handlers' holds keeps the leases. -/
theorem LeaseInv.filterHolders (h : LeaseInv s) (q : Request × Nat → Bool) :
    LeaseInv { s with holders := s.holders.filter q } :=
  h.shrink List.filter_sublist (List.Sublist.refl _) (List.Sublist.refl _) (List.Sublist.refl _) rfl
    (fun _ hc => ⟨hc, rfl⟩) (fun _ _ hk ho => h.live_of_opening hk ho)

/-- A step that changes the claims, the lease and the record of one connection `c₀` only keeps
    the leases when `c₀` ends up with at most one claim, under the lease that matches it, owned
    by the context of any answer posted with it, and with its requester answered. -/
theorem LeaseInv.update {t : Sys} (c₀ : Nat) (h : LeaseInv s)
    (hC : ∀ c, c ≠ c₀ → t.conn? c = s.conn? c)
    (hgiven : ∀ r c, t.Given r c → c ≠ c₀ → s.Given r c)
    (hids : t.pool.liveIds = s.pool.liveIds)
    (hcl : ∀ c, c ≠ c₀ → t.claims c = s.claims c)
    (hold : ∀ r c, t.HasClaim r c → c ≠ c₀ → s.HasClaim r c)
    (hav : ∀ c, c ∈ t.pool.available → c ≠ c₀ → c ∈ s.pool.available)
    (hlease : ∀ c, c ≠ c₀ → t.pool.leaseOf c = s.pool.leaseOf c)
    (hnf : ∀ k, t.conn? c₀ = some k → k.stage.opening = false)
    (h₀ : t.claims c₀ ≤ 1) (hop₀ : t.claims c₀ ≠ 0 → (t.conn? c₀).isSome)
    (hheld₀ : c₀ ∈ s.pool.liveIds → ∀ r, t.HasClaim r c₀ → t.pool.leaseOf c₀ = some (.held r.ctx))
    (hidle₀ : c₀ ∈ s.pool.liveIds → c₀ ∈ t.pool.available → t.pool.leaseOf c₀ = some .idle)
    (howned₀ : ∀ r, t.Given r c₀ → ∃ k, t.conn? c₀ = some k ∧ k.owner = r.ctx) :
    LeaseInv t := by
  refine ⟨fun c => ?_, fun c hc => ?_, fun c r hc hr => ?_, fun c hc ha => ?_,
    fun c k hk ho => ?_, fun r c hr => ?_⟩
  · by_cases hne : c = c₀
    · exact hne ▸ h₀
    · rw [hcl c hne]; exact h.single c
  · by_cases hne : c = c₀
    · subst hne; exact hop₀ hc
    · rw [hC c hne]; exact h.opened c (by rwa [← hcl c hne])
  · rw [hids] at hc
    by_cases hne : c = c₀
    · subst hne; exact hheld₀ hc r hr
    · rw [hlease c hne]; exact h.held c r hc (hold r c hr hne)
  · rw [hids] at hc
    by_cases hne : c = c₀
    · subst hne; exact hidle₀ hc ha
    · rw [hlease c hne]; exact h.idle c hc (hav c ha hne)
  · have hne : c ≠ c₀ := fun he => by rw [he] at hk; simp [hnf k hk] at ho
    rw [hC c hne] at hk
    obtain ⟨h1, h2, h3⟩ := h.fresh c k hk ho
    exact ⟨by rw [hcl c hne, h1], h2, by rw [hlease c hne, h3]⟩
  · by_cases hne : c = c₀
    · subst hne; exact howned₀ r hr
    · rw [hC c hne]; exact h.owned r c (hgiven r c hr hne)

theorem claims_eq_zero_iff {c : Nat} : s.claims c = 0 ↔
    s.holders.countP (·.2 == c) = 0 ∧ s.inbox.countP (·.2.toOption == some c) = 0 ∧
      s.handOffs.countP (·.1 == c) = 0 ∧ s.pool.available.count c = 0 := by
  simp only [claims, inFlight]
  omega

/-- No request has a claim on a connection with no claims. -/
theorem not_hasClaim {r : Request} {c : Nat} (hz : s.claims c = 0) : ¬ s.HasClaim r c := fun hr => by
  have := hr.one_le
  simp only [claims] at hz
  omega

/-- The claims on a connection with one in flight are all in flight. -/
theorem count_available_of_hasClaim {r : Request} {c : Nat} (h : LeaseInv s) (hr : s.HasClaim r c) :
    s.pool.available.count c = 0 := by
  have := hr.one_le
  have := h.single c
  simp only [claims] at this
  omega

/-- A check-in of a connection nobody claims, by its lease holder or by the pool, gives the
    connection at most one claim, with the lease to match: the oldest waiter's hand-off, or an
    idle place, or none when the connection is retired. -/
theorem LeaseInv.checkIn {c : Nat} {caller : Option ContextId} (h : LeaseInv s) (ht : s.Tracked)
    (hz : s.claims c = 0) (hnf : ∀ k, s.conn? c = some k → k.stage.opening = false)
    (hs : s.checkIn c caller = .ok s') : LeaseInv s' := by
  obtain ⟨⟨holder, k, hl, -, hk, -⟩, -⟩ := checkIn_cases ht hs
  obtain ⟨hC, hH, hI, l, hL, hd⟩ := checkIn_effect ht hs
  have hconn := conn?_of_conns hC
  have hlease : ∀ c', c' ≠ c → s'.pool.leaseOf c' = s.pool.leaseOf c' := fun c' hne => by
    rw [leaseOf_of_live hL, Pool.leaseOf_setLease, if_neg hne]
  have hl' : s'.pool.leaseOf c = some l := by
    rw [leaseOf_of_live hL, Pool.leaseOf_setLease, if_pos rfl, hl]; rfl
  -- nothing claimed `c` before
  have hzH : s.holders.countP (·.2 == c) = 0 := by simp only [claims, inFlight] at hz; omega
  have hzI : s.inbox.countP (·.2.toOption == some c) = 0 := by
    simp only [claims, inFlight] at hz; omega
  have hzO : s.handOffs.countP (·.1 == c) = 0 := by simp only [claims, inFlight] at hz; omega
  have hzA : s.pool.available.count c = 0 := by simp only [claims] at hz; omega
  have hnone : ∀ r, ¬ s.HasClaim r c := fun r => not_hasClaim hz
  have hgiven : ∀ r c', s'.Given r c' → s.Given r c' := fun r c' hr => by rwa [Given, hH, hI] at hr
  refine h.update c (fun c' _ => hconn c') (fun r c' hr _ => hgiven r c' hr) ?_ (fun c' hne => ?_)
    (fun r c' hr hne => ?_) (fun c' ha hne => ?_) hlease (fun k' hk' => hnf k' (hconn c ▸ hk')) ?_
    (fun _ => by rw [hconn, hk]; rfl) (fun _ r hr => ?_) (fun _ ha => ?_)
    (fun r hr => absurd (hgiven r c hr).hasClaim (hnone r))
  · rw [← Pool.liveIds_setLease s.pool c l]; simp [Pool.liveIds, hL]
  · have hne' : (c == c') = false := by simpa using Ne.symm hne
    rcases hd with ⟨-, hO, hA⟩ | ⟨q, -, hO, hA⟩ | ⟨-, hO, hA⟩ <;>
      simp [claims, inFlight, hH, hI, hO, hA, List.count_singleton, hne']
  · rcases hd with ⟨-, hO, -⟩ | ⟨q, -, hO, -⟩ | ⟨-, hO, -⟩ <;>
      simp only [HasClaim, hH, hI, hO, List.mem_append, List.mem_singleton, Prod.mk.injEq] at hr ⊢
    · exact hr
    · rcases hr with hr | hr | hr | ⟨he, -⟩
      · exact .inl hr
      · exact .inr (.inl hr)
      · exact .inr (.inr hr)
      · exact absurd he hne
    · exact hr
  · rcases hd with ⟨-, -, hA⟩ | ⟨q, -, -, hA⟩ | ⟨-, -, hA⟩ <;> rw [hA] at ha
    · exact ha
    · exact ha
    · simpa [hne] using ha
  · rcases hd with ⟨-, hO, hA⟩ | ⟨q, -, hO, hA⟩ | ⟨-, hO, hA⟩ <;>
      simp [claims, inFlight, hH, hI, hO, hA, hzH, hzI, hzO, hzA]
  · -- the one new claim on `c` is the waiter's hand-off, under its lease
    rw [hl']
    rcases hd with ⟨-, hO, -⟩ | ⟨q, rfl, hO, -⟩ | ⟨-, hO, -⟩ <;>
      simp only [HasClaim, hH, hI, hO, List.mem_append, List.mem_singleton, Prod.mk.injEq] at hr
    · exact absurd hr (hnone r)
    · rcases hr with hr | hr | hr | ⟨-, rfl⟩
      · exact absurd (.inl hr) (hnone r)
      · exact absurd (.inr (.inl hr)) (hnone r)
      · exact absurd (.inr (.inr hr)) (hnone r)
      · rfl
    · exact absurd hr (hnone r)
  · rw [hl']
    rcases hd with ⟨-, -, hA⟩ | ⟨q, -, -, hA⟩ | ⟨rfl, -, -⟩
    · rw [hA] at ha; exact absurd (List.count_pos_iff.2 ha) (by omega)
    · rw [hA] at ha; exact absurd (List.count_pos_iff.2 ha) (by omega)
    · rfl

/-! ### Each step keeps the leases -/

theorem LeaseInv.acquire {ctx : ContextId} (h : LeaseInv s) (ht : s.Tracked)
    (hs : s.acquire ctx = .ok s') : LeaseInv s' := by
  obtain ⟨-, -, ⟨c, rest, hav, hs'⟩ | ⟨-, -, ⟨q, rest, -, rfl⟩ | ⟨-, rfl⟩⟩ | ⟨-, -, rfl⟩⟩ :=
    acquire_cases ht hs
  · -- the idle connection's place becomes the request's hand-off, under its lease
    have hcount : s.pool.available.count c = rest.count c + 1 := by simp [hav]
    have hsc := h.single c
    have hfl : s.inFlight c = 0 := by simp only [claims] at hsc; omega
    have hrest : rest.count c = 0 := by simp only [claims] at hsc; omega
    have hnone : ∀ r, ¬ s.HasClaim r c := fun r hr => by have := hr.one_le; omega
    have hc : s.claims c ≠ 0 := by simp only [claims]; omega
    have hclaims : ∀ c', s'.claims c' = s.claims c' := fun c' => by
      have hc' : s.pool.available.count c' = rest.count c' + (if c = c' then 1 else 0) := by
        rw [hav, List.count_cons]; simp
      simp only [hs', claims, inFlight, List.countP_append, List.countP_singleton, hc']
      by_cases he : c = c' <;> simp [he] <;> omega
    have hlease : ∀ c', s'.pool.leaseOf c' = (s.pool.setLease c (.held ctx)).leaseOf c' := by
      subst hs'; exact leaseOf_of_live rfl
    have hmem : ∀ r c', s'.HasClaim r c' ↔ s.HasClaim r c' ∨ (c' = c ∧ r = ⟨s.seq, ctx⟩) := by
      subst hs'
      intro r c'
      simp only [HasClaim, List.mem_append, List.mem_singleton, Prod.mk.injEq]
      constructor
      · rintro (hr | hr | hr | ⟨rfl, rfl⟩)
        · exact .inl (.inl hr)
        · exact .inl (.inr (.inl hr))
        · exact .inl (.inr (.inr hr))
        · exact .inr ⟨rfl, rfl⟩
      · rintro ((hr | hr | hr) | ⟨rfl, rfl⟩)
        · exact .inl hr
        · exact .inr (.inl hr)
        · exact .inr (.inr (.inl hr))
        · exact .inr (.inr (.inr ⟨rfl, rfl⟩))
    subst hs'
    refine h.update c (fun _ _ => rfl) (fun _ _ hr _ => hr) (Pool.liveIds_setLease _ _ _)
      (fun c' _ => hclaims c') (fun r c' hr hne => ?_)
      (fun c' ha _ => by rw [hav]; exact List.mem_cons_of_mem _ ha)
      (fun c' hne => by rw [hlease, Pool.leaseOf_setLease, if_neg hne])
      (fun k hk => h.not_opening hk hc) (by rw [hclaims]; exact hsc)
      (fun _ => h.opened c hc) (fun hl r hr => ?_)
      (fun _ ha => absurd (List.count_pos_iff.2 (show c ∈ rest from ha)) (by omega))
      (fun r hr => absurd (Given.hasClaim (s := s) hr) (hnone r))
    · rcases (hmem r c').1 hr with hr | ⟨he, -⟩
      · exact hr
      · exact absurd he hne
    · rcases (hmem r c).1 hr with hr | ⟨-, rfl⟩
      · exact absurd hr (hnone r)
      · rw [hlease, Pool.leaseOf_setLease, if_pos rfl,
          h.idle c hl (by rw [hav]; exact List.mem_cons_self)]
        rfl
  all_goals exact h.same rfl rfl rfl rfl rfl rfl

/-- A release by a context holding the connection: that hold was the connection's only claim,
    and the check-in gives it at most one new one. -/
theorem LeaseInv.release {ctx : ContextId} {c : Nat} (h : LeaseInv s) (ht : s.Tracked)
    (hr : ∃ r, (r, c) ∈ s.holders ∧ r.ctx = ctx) (hs : s.release ctx c = .ok s') :
    LeaseInv s' := by
  obtain ⟨r₀, hr₀, rfl⟩ := hr
  obtain ⟨t, hck, rfl⟩ := release_cases hs
  have hth : t.holders = s.holders := (checkIn_effect ht hck).2.1
  have hsc := h.single c
  have h1 : 1 ≤ s.inFlight c := HasClaim.one_le (.inl hr₀)
  have hz : ({ s with holders := s.holders.filter fun h => !(h.2 == c && h.1.ctx == r₀.ctx) } :
      Sys).claims c = 0 := by
    have hsplit := List.countP_eq_countP_filter_add s.holders (·.2 == c)
      (fun h => !(h.2 == c && h.1.ctx == r₀.ctx))
    have hgone : 1 ≤ (s.holders.filter fun h => !!(h.2 == c && h.1.ctx == r₀.ctx)).countP (·.2 == c) :=
      List.countP_pos_iff.2 ⟨(r₀, c), List.mem_filter.2 ⟨hr₀, by simp⟩, by simp⟩
    simp only [claims, inFlight] at hsc h1 ⊢
    omega
  have := (h.filterHolders _).checkIn ht hz
    (fun k hk => h.not_opening hk (by simp only [claims] at *; omega))
    (checkIn_withHolders _ hck)
  rw [hth]
  exact this

theorem LeaseInv.deliver {i : Nat} (h : LeaseInv s) (hs : s.deliver i = some s') : LeaseInv s' := by
  obtain ⟨⟨r, a⟩, hi, rfl⟩ := Option.map_eq_some_iff.1 hs
  cases a with
  | error e =>
    -- an error carries no connection
    exact h.shrink (List.Sublist.refl _) (List.eraseIdx_sublist _ _) (List.Sublist.refl _)
      (List.Sublist.refl _) rfl (fun _ hc => ⟨hc, rfl⟩) (fun _ _ hk ho => h.live_of_opening hk ho)
  | ok c =>
    -- the posted answer's claim becomes the handler's hold
    have hmem : (r, Except.ok c) ∈ s.inbox := List.mem_of_getElem? hi
    have hcnt : ∀ c', (s.inbox.eraseIdx i).countP (·.2.toOption == some c') +
        (if c = c' then 1 else 0) = s.inbox.countP (·.2.toOption == some c') := fun c' => by
      have := countP_eraseIdx (·.2.toOption == some c') s.inbox i (r, .ok c) hi
      by_cases he : c = c' <;> simp_all [Except.toOption]
    have hclaims : ∀ c', ({ s with inbox := s.inbox.eraseIdx i }.answer r (.ok c)).claims c' =
        s.claims c' := fun c' => by
      have := hcnt c'
      simp only [claims, inFlight, answer, List.countP_append, List.countP_singleton]
      by_cases he : c = c' <;> simp [he] at this ⊢ <;> omega
    have hold : ∀ r' c', ({ s with inbox := s.inbox.eraseIdx i }.answer r (.ok c)).HasClaim r' c' →
        s.HasClaim r' c' := fun r' c' hr' => by
      simp only [HasClaim, answer, List.mem_append, List.mem_singleton, Prod.mk.injEq] at hr'
      rcases hr' with (hr' | ⟨rfl, rfl⟩) | hr' | hr'
      · exact .inl hr'
      · exact .inr (.inl hmem)
      · exact .inr (.inl (List.mem_of_mem_eraseIdx hr'))
      · exact .inr (.inr hr')
    have hgiven : ∀ r' c', ({ s with inbox := s.inbox.eraseIdx i }.answer r (.ok c)).Given r' c' →
        s.Given r' c' := fun r' c' hr' => by
      simp only [Given, answer, List.mem_append, List.mem_singleton, Prod.mk.injEq] at hr'
      rcases hr' with (hr' | ⟨rfl, rfl⟩) | hr'
      · exact .inl hr'
      · exact .inr hmem
      · exact .inr (List.mem_of_mem_eraseIdx hr')
    have hc : s.claims c ≠ 0 := by have := HasClaim.one_le (.inr (.inl hmem)); simp only [claims]; omega
    exact h.update c (fun _ _ => rfl) (fun r' c' hr' _ => hgiven r' c' hr') rfl
      (fun c' _ => hclaims c') (fun r' c' hr' _ => hold r' c' hr') (fun _ ha _ => ha) (fun _ _ => rfl)
      (fun k hk => h.not_opening hk hc) (by rw [hclaims]; exact h.single c)
      (fun _ => h.opened c hc) (fun hl r' hr' => h.held c r' hl (hold r' c hr'))
      (fun hl ha => h.idle c hl ha) (fun r' hr' => h.owned r' c (hgiven r' c hr'))

/-- Posting connection `c` to request `r` keeps the leases when nothing claims `c`, its requester
    is answered, it is owned by the request's context and, while live, leased to it. -/
theorem LeaseInv.post {r : Request} {c : Nat} {k : Conn} (h : LeaseInv s) (hz : s.claims c = 0)
    (hk : s.conn? c = some k) (hown : k.owner = r.ctx) (hnf : k.stage.opening = false)
    (hl : c ∈ s.pool.liveIds → s.pool.leaseOf c = some (.held r.ctx)) :
    LeaseInv { s with inbox := s.inbox ++ [(r, .ok c)] } := by
  have hmem : ∀ r' c', (r', Except.ok c') ∈ s.inbox ++ [(r, .ok c)] ↔
      (r', .ok c') ∈ s.inbox ∨ (r' = r ∧ c' = c) := fun r' c' => by simp
  obtain ⟨hzH, hzI, hzO, hzA⟩ := claims_eq_zero_iff.1 hz
  refine h.update c (fun _ _ => rfl) (fun r' c' hr hne => ?_) rfl (fun c' hne => ?_)
    (fun r' c' hr hne => ?_) (fun _ ha _ => ha) (fun _ _ => rfl) (fun k' hk' => ?_) ?_
    (fun _ => show (s.conn? c).isSome from by rw [hk]; rfl) (fun hc r' hr => ?_)
    (fun _ ha => absurd (List.count_pos_iff.2 (show c ∈ s.pool.available from ha)) (by omega))
    (fun r' hr => ?_)
  · rcases hr with hr | hr
    · exact .inl hr
    · exact .inr (((hmem r' c').1 hr).resolve_right fun he => hne he.2)
  · simp [claims, inFlight, List.countP_append, Ne.symm hne]
  · rcases hr with hr | hr | hr
    · exact .inl hr
    · exact .inr (.inl (((hmem r' c').1 hr).resolve_right fun he => hne he.2))
    · exact .inr (.inr hr)
  · change s.conn? c = some k' at hk'
    rw [hk] at hk'
    cases hk'
    exact hnf
  · simp [claims, inFlight, List.countP_append, hzH, hzI, hzO, hzA]
  · rcases hr with hr | hr | hr
    · exact absurd (.inl hr) (not_hasClaim hz)
    · rcases (hmem r' c).1 hr with hr | ⟨rfl, -⟩
      · exact absurd (.inr (.inl hr)) (not_hasClaim hz)
      · exact hl hc
    · exact absurd (.inr (.inr hr)) (not_hasClaim hz)
  · rcases hr with hr | hr
    · exact absurd (.inl hr) (not_hasClaim hz)
    · rcases (hmem r' c).1 hr with hr | ⟨rfl, -⟩
      · exact absurd (.inr (.inl hr)) (not_hasClaim hz)
      · exact ⟨k, hk, hown⟩

/-- A connect that succeeded on an open pool: the requester becomes the connection's first
    holder, under the lease it was opened with, and the driver starts. -/
theorem LeaseInv.connected {c : Nat} {k : Conn} (h : LeaseInv s) (hk : s.conn? c = some k)
    (ho : k.stage.opening) : LeaseInv ((s.answer k.req (.ok c)).modifyConn c Conn.activate) := by
  obtain ⟨hz, hown, hl⟩ := h.fresh c k hk ho
  obtain ⟨hzH, hzI, hzO, hzA⟩ := claims_eq_zero_iff.1 hz
  have hkt : ((s.answer k.req (.ok c)).modifyConn c Conn.activate).conn? c = some k.activate := by
    simp [hk]
  refine h.update c (fun c' hne => by simp [conn?_modifyConn_of_ne _ _ hne])
    (fun r' c' hr hne => ?_) rfl (fun c' hne => ?_) (fun r' c' hr hne => ?_) (fun _ ha _ => ha)
    (fun _ _ => rfl) (fun k' hk' => ?_) ?_ (fun _ => by rw [hkt]; rfl) (fun hc r' hr => ?_)
    (fun _ ha => absurd (List.count_pos_iff.2 (show c ∈ s.pool.available from ha)) (by omega))
    (fun r' hr => ?_)
  · simp only [Given, holders_modifyConn, holders_answer_ok, inbox_modifyConn, inbox_answer,
      List.mem_append, List.mem_singleton, Prod.mk.injEq] at hr
    rcases hr with (hr | ⟨-, he⟩) | hr
    · exact .inl hr
    · exact absurd he hne
    · exact .inr hr
  · simp [claims, inFlight, List.countP_append, Ne.symm hne]
  · simp only [HasClaim, holders_modifyConn, holders_answer_ok, inbox_modifyConn, inbox_answer,
      handOffs_modifyConn, handOffs_answer, List.mem_append, List.mem_singleton,
      Prod.mk.injEq] at hr
    rcases hr with (hr | ⟨-, he⟩) | hr | hr
    · exact .inl hr
    · exact absurd he hne
    · exact .inr (.inl hr)
    · exact .inr (.inr hr)
  · rw [hkt] at hk'
    cases hk'
    rfl
  · simp [claims, inFlight, List.countP_append, hzH, hzI, hzO, hzA]
  · simp only [HasClaim, holders_modifyConn, holders_answer_ok, inbox_modifyConn, inbox_answer,
      handOffs_modifyConn, handOffs_answer, List.mem_append, List.mem_singleton,
      Prod.mk.injEq] at hr
    rcases hr with (hr | ⟨rfl, -⟩) | hr | hr
    · exact absurd (.inl hr) (not_hasClaim hz)
    · exact hl
    · exact absurd (.inr (.inl hr)) (not_hasClaim hz)
    · exact absurd (.inr (.inr hr)) (not_hasClaim hz)
  · simp only [Given, holders_modifyConn, holders_answer_ok, inbox_modifyConn, inbox_answer,
      List.mem_append, List.mem_singleton, Prod.mk.injEq] at hr
    rcases hr with (hr | ⟨rfl, -⟩) | hr
    · exact absurd (.inl hr) (not_hasClaim hz)
    · exact ⟨k.activate, hkt, hown⟩
    · exact absurd (.inr (.inl hr)) (not_hasClaim hz)

/-- The transport answers a connect: the requester becomes the connection's first holder or is
    told that the pool closed; a failed connect answers later. -/
theorem LeaseInv.dial {c : Nat} {failure : Option String} (h : LeaseInv s)
    (hs : s.dial c failure = some s') : LeaseInv s' := by
  obtain ⟨k, hk, hst, ⟨-, rfl⟩ | ⟨msg, -, rfl⟩⟩ := dial_cases hs
  · have ho : k.stage.opening := by rw [hst]; rfl
    -- counting the connection among those created changes no lease
    generalize hY : ({ s with pool := { s.pool with created := s.pool.created + 1 } } : Sys) = Y
    have hYinv : LeaseInv Y := hY ▸ h.same rfl rfl rfl rfl rfl rfl
    have hkY : Y.conn? c = some k := hY ▸ hk
    by_cases hcl : s.pool.closed = true
    · rw [if_pos hcl]
      refine LeaseInv.modifyConn ?_ fun _ _ =>
        ⟨rfl, rfl, fun ho => by simp [Conn.activate, Stage.opening] at ho⟩
      exact hYinv.same rfl rfl rfl rfl rfl rfl
    · rw [if_neg hcl]
      exact hYinv.connected hkY ho
  · exact h.modifyConn fun _ _ => ⟨rfl, rfl, fun ho => by simp [Conn.fail, Stage.opening] at ho⟩

/-- The thread of an admitted request records its connection: unclaimed, owned by and leased to
    the requester's context. -/
theorem LeaseInv.insert {i : Nat} (h : LeaseInv s) (hsl : SlotInv s) (hs : s.insert i = some s') :
    LeaseInv s' := by
  obtain ⟨r, -, hs'⟩ := Option.map_eq_some_iff.1 hs
  -- the new number names no connection yet, so nothing claims it and it is not live
  have hnew : s.conn? (s.conns.length + 1) = none := conn?_new s
  have hne : ∀ c, (s.conn? c).isSome → c ≠ s.conns.length + 1 := fun c hc he => by
    rw [he, hnew] at hc; cases hc
  have hlive : s.conns.length + 1 ∉ s.pool.liveIds := fun hl => by
    obtain ⟨k, hk, -⟩ := (hsl.live _).1 hl
    rw [hnew] at hk; cases hk
  have hz : s.claims (s.conns.length + 1) = 0 := by
    cases hc : s.claims (s.conns.length + 1) with
    | zero => rfl
    | succ n => exact absurd (h.opened (s.conns.length + 1) (by omega)) (by rw [hnew]; exact Bool.false_ne_true)
  have hconn : ∀ c, s'.conn? c = if c = s.conns.length + 1 then some { req := r, owner := r.ctx }
      else s.conn? c := conn?_append_new (by subst hs'; rfl)
  have hcl : ∀ c, s'.claims c = s.claims c := fun c => by subst hs'; rfl
  have hhc : ∀ r' c, s'.HasClaim r' c ↔ s.HasClaim r' c := fun _ _ => by subst hs'; exact Iff.rfl
  have hids : s'.pool.liveIds = s.pool.liveIds ++ [s.conns.length + 1] := by subst hs'; simp
  have hlease : ∀ c, s'.pool.leaseOf c = (s.pool.leaseOf c).or
      (if c = s.conns.length + 1 then some (.held r.ctx) else none) := fun c => by
    subst hs'; exact Pool.leaseOf_track _ _ _ _
  have hold : ∀ c, c ≠ s.conns.length + 1 → s'.pool.leaseOf c = s.pool.leaseOf c := fun c hc => by
    rw [hlease, if_neg hc, Option.or_none]
  have hmem : ∀ c, c ∈ s'.pool.liveIds → c ≠ s.conns.length + 1 → c ∈ s.pool.liveIds := fun c hc hn => by
    rw [hids, List.mem_append, List.mem_singleton] at hc
    exact hc.resolve_right hn
  refine ⟨fun c => hcl c ▸ h.single c, fun c hc => ?_, fun c r' hc hr => ?_, fun c hc ha => ?_,
    fun c k hk ho => ?_, fun r' c hr => ?_⟩
  · have hs := h.opened c (hcl c ▸ hc)
    rw [hconn, if_neg (hne c hs)]
    exact hs
  · have hn : c ≠ s.conns.length + 1 := fun he => not_hasClaim (he ▸ hz) ((hhc r' c).1 hr)
    rw [hold c hn]
    exact h.held c r' (hmem c hc hn) ((hhc r' c).1 hr)
  · have hcs : s.claims c ≠ 0 := by
      have := List.count_pos_iff.2 (show c ∈ s.pool.available by subst hs'; exact ha)
      simp only [claims]; omega
    have hn := hne c (h.opened c hcs)
    rw [hold c hn]
    exact h.idle c (hmem c hc hn) (by subst hs'; exact ha)
  · rw [hconn] at hk
    split at hk
    · rename_i he
      cases hk
      subst he
      refine ⟨by rw [hcl]; exact hz, rfl, ?_⟩
      rw [hlease, if_pos rfl, show s.pool.leaseOf _ = none from
        Option.not_isSome_iff_eq_none.1 fun hs => hlive ((Pool.leaseOf_isSome_iff _ _).1 hs)]
      rfl
    · rename_i hn
      obtain ⟨h1, h2, h3⟩ := h.fresh c k hk ho
      exact ⟨by rw [hcl]; exact h1, h2, by rw [hold c hn]; exact h3⟩
  · have hr' : s.Given r' c := by subst hs'; exact hr
    obtain ⟨k, hk, hown⟩ := h.owned r' c hr'
    rw [hconn, if_neg (hne c (by rw [hk]; rfl))]
    exact ⟨k, hk, hown⟩

/-- The connect task is spawned: its requester is still to be answered, or, its context gone,
    never will be. -/
theorem LeaseInv.spawn {c : Nat} (h : LeaseInv s) (hs : s.spawn c = some s') : LeaseInv s' := by
  obtain ⟨k, hk, hst, ⟨-, rfl⟩ | ⟨-, rfl⟩⟩ := spawn_cases hs
  · exact h.modifyConn fun k' hk' => ⟨rfl, rfl, fun _ => by
      rw [show s.conn? c = some k from hk] at hk'
      cases hk'
      rw [hst]; rfl⟩
  · exact h.modifyConn fun _ _ => ⟨rfl, rfl, fun ho => absurd ho Bool.false_ne_true⟩

theorem LeaseInv.finish {c : Nat} (h : LeaseInv s) (hs : s.finish c = some s') : LeaseInv s' := by
  obtain ⟨k, -, -, rfl⟩ := finish_cases hs
  exact h.modifyConn fun k' _ => ⟨k'.finishClose_keeps.1, k'.finishClose_keeps.2.1,
    fun ho => absurd ho (by rw [k'.finishClose_keeps.2.2]; exact Bool.false_ne_true)⟩

theorem LeaseInv.closeConn {c : Nat} (h : LeaseInv s) : LeaseInv (s.modifyConn c Conn.close) :=
  h.modifyConn fun k' _ => ⟨k'.close_keeps.1, k'.close_keeps.2, by rw [Conn.close_stage]; exact id⟩

/-- Forgetting connection `c`, whose requester is answered, keeps the leases, whatever the pool
    then does with the freed slot, when the other leases stay and no idle place is added. -/
theorem LeaseInv.forget {c : Nat} {q : Pool} (h : LeaseInv s)
    (hnf : ∀ k, s.conn? c = some k → k.stage.opening = false)
    (hA : q.available.Sublist s.pool.available) (hids : q.liveIds = s.pool.liveIds.filter (· != c))
    (hl : ∀ c', c' ≠ c → q.leaseOf c' = s.pool.leaseOf c') : LeaseInv { s with pool := q } := by
  refine h.shrink (.refl _) (.refl _) (.refl _) hA rfl (fun c' hc' => ?_) (fun c' k hk ho => ?_)
  · have : c' ∈ s.pool.liveIds ∧ c' ≠ c := by simpa [hids] using hc'
    exact ⟨this.1, hl c' this.2⟩
  · -- a connection whose requester waits is not the one forgotten
    have hne : c' ≠ c := fun he => by rw [he] at hk; simp [hnf k hk] at ho
    show c' ∈ q.liveIds
    rw [hids, List.mem_filter]
    exact ⟨h.live_of_opening hk ho, by simpa using hne⟩

/-- The thread of a finished connection is done: its requester stays answered. -/
theorem LeaseInv.done (c : Nat) (h : LeaseInv s) :
    LeaseInv (s.modifyConn c ({ · with stage := .done })) :=
  h.modifyConn fun _ _ => ⟨rfl, rfl, fun ho => absurd ho Bool.false_ne_true⟩

theorem opening_done {c : Nat} {k : Conn} (hk : (s.modifyConn c ({ · with stage := .done })).conn? c = some k) :
    k.stage.opening = false := by
  rw [conn?_modifyConn_self] at hk
  obtain ⟨k₀, -, rfl⟩ := Option.map_eq_some_iff.1 hk
  rfl

theorem LeaseInv.settle {c : Nat} (h : LeaseInv s) (hsl : SlotInv s) (hs : s.settle c = some s') :
    LeaseInv s' := by
  obtain ⟨k, e, hk, hst, rfl⟩ := settle_cases hs
  have hc : c ∈ s.pool.liveIds := (hsl.live c).2 ⟨k, hk, by simp [hst]⟩
  rw [Pool.dropFailed_of_mem hc]
  have h₂ := (h.done c).forget (fun _ hk' => opening_done hk')
    (q := { (s.pool.forget c).nextWaiter.2 with failed := (s.pool.forget c).nextWaiter.2.failed + 1 })
    (by simp) (by show (s.pool.forget c).nextWaiter.2.liveIds = _; simp)
    (fun c' hne => by
      show (s.pool.forget c).nextWaiter.2.leaseOf c' = _
      rw [Pool.leaseOf_nextWaiter, Pool.leaseOf_forget_of_ne _ _ hne]; rfl)
  cases e <;> exact h₂.same rfl rfl rfl rfl rfl rfl

theorem LeaseInv.free {c : Nat} (h : LeaseInv s) (hsl : SlotInv s) (hs : s.free c = some s') :
    LeaseInv s' := by
  obtain ⟨k, hk, hst, rfl⟩ := free_cases hs
  have hc : c ∈ s.pool.liveIds := (hsl.live c).2 ⟨k, hk, by simp [hst]⟩
  rw [Pool.freeSlot_of_mem hc]
  have h₂ := (h.done c).forget (fun _ hk' => opening_done hk')
    (q := { s.pool.forget c with available := s.pool.available.filter (· != c) }.nextWaiter.2)
    (by rw [Pool.available_nextWaiter]; exact List.filter_sublist)
    (by rw [Pool.liveIds_nextWaiter]; exact Pool.liveIds_forget _ _)
    (fun c' hne => by rw [Pool.leaseOf_nextWaiter]; exact Pool.leaseOf_forget_of_ne _ _ hne)
  exact h₂.same rfl rfl rfl rfl rfl rfl

section HandOff

variable {i c : Nat} {r : Request}

/-- Taking a decided hand-off off the list takes the one claim on its connection. -/
theorem claims_takeHandOff (hi : s.handOffs[i]? = some (c, r)) (c' : Nat) :
    ({ s.modifyConn c ({ · with owner := r.ctx }) with
        handOffs := s.handOffs.eraseIdx i, pool := { s.pool with reused := s.pool.reused + 1 } } :
      Sys).claims c' + (if c = c' then 1 else 0) = s.claims c' := by
  have := countP_eraseIdx (·.1 == c') s.handOffs i (c, r) hi
  simp only [claims, inFlight, holders_modifyConn, inbox_modifyConn] at this ⊢
  by_cases he : c = c' <;> simp [he] at this ⊢ <;> omega

/-- Taking a decided hand-off off the list and re-pinning its connection to the request's
    context keeps the leases. -/
theorem LeaseInv.takeHandOff (h : LeaseInv s) (hi : s.handOffs[i]? = some (c, r)) :
    LeaseInv { s.modifyConn c ({ · with owner := r.ctx }) with
      handOffs := s.handOffs.eraseIdx i, pool := { s.pool with reused := s.pool.reused + 1 } } := by
  have hmem : (c, r) ∈ s.handOffs := List.mem_of_getElem? hi
  have hc : s.claims c ≠ 0 := by
    have := HasClaim.one_le (.inr (.inr hmem)); simp only [claims]; omega
  have hz : ({ s.modifyConn c ({ · with owner := r.ctx }) with
      handOffs := s.handOffs.eraseIdx i, pool := { s.pool with reused := s.pool.reused + 1 } } :
      Sys).claims c = 0 := by
    have := claims_takeHandOff hi c
    have := h.single c
    simp only [if_pos] at *
    omega
  refine h.update c (fun c' hne => conn?_modifyConn_of_ne _ _ hne) (fun _ _ hr _ => hr) rfl
    (fun c' hne => by
      have := claims_takeHandOff hi c'
      rwa [if_neg (Ne.symm hne), Nat.add_zero] at this) (fun r' c' hr _ => ?_)
    (fun _ ha _ => ha) (fun _ _ => rfl) (fun k hk => ?_) (by omega) (fun hz' => absurd hz hz')
    (fun _ r' hr => absurd hr (not_hasClaim hz))
    (fun _ ha => absurd (List.count_pos_iff.2 ha) (by
      rw [count_available_of_hasClaim h (.inr (.inr hmem))]; exact Nat.lt_irrefl 0))
    (fun r' hr => absurd hr.hasClaim (not_hasClaim hz))
  · rcases hr with hr | hr | hr
    · exact .inl hr
    · exact .inr (.inl hr)
    · exact .inr (.inr (List.mem_of_mem_eraseIdx hr))
  · obtain ⟨k₀, hk₀, rfl⟩ := Option.map_eq_some_iff.1 ((conn?_modifyConn_self s c _).symm.trans hk)
    exact (h.not_opening hk₀ hc : k₀.stage.opening = false)

/-- A decided hand-off: the answer with the connection is posted to the request's context, or,
    that context gone, the pool takes the connection back. -/
theorem LeaseInv.handOff (h : LeaseInv s) (ht : s.Tracked) (hs : s.handOff i = some s') :
    LeaseInv s' := by
  obtain ⟨c, r, hi, hs⟩ := handOff_cases hs
  have hmem : (c, r) ∈ s.handOffs := List.mem_of_getElem? hi
  have hc : s.claims c ≠ 0 := by
    have := HasClaim.one_le (.inr (.inr hmem)); simp only [claims]; omega
  obtain ⟨k, hk⟩ := Option.isSome_iff_exists.1 (h.opened c hc)
  have hu := h.takeHandOff hi
  have hz : ({ s.modifyConn c ({ · with owner := r.ctx }) with
      handOffs := s.handOffs.eraseIdx i, pool := { s.pool with reused := s.pool.reused + 1 } } :
      Sys).claims c = 0 := by
    have := claims_takeHandOff hi c
    have := h.single c
    simp only [if_pos] at *
    omega
  have hk' : ({ s.modifyConn c ({ · with owner := r.ctx }) with
      handOffs := s.handOffs.eraseIdx i, pool := { s.pool with reused := s.pool.reused + 1 } } :
      Sys).conn? c = some { k with owner := r.ctx } := by
    show (s.modifyConn c _).conn? c = _
    rw [conn?_modifyConn_self, hk]; rfl
  obtain ⟨-, rfl⟩ | ⟨-, hck | ⟨e, -, rfl⟩⟩ := hs
  · exact hu.post hz hk' rfl (h.not_opening hk hc : k.stage.opening = false) fun hl => h.held c r hl (.inr (.inr hmem))
  · exact hu.checkIn ht hz (fun k' hk'' => by
      rw [hk'] at hk''
      cases hk''
      exact (h.not_opening hk hc : k.stage.opening = false)) hck
  · exact hu

end HandOff

theorem LeaseInv.notify {i : Nat} (h : LeaseInv s) (hs : s.notify i = some s') : LeaseInv s' := by
  obtain ⟨r, -, rfl⟩ := Option.map_eq_some_iff.1 hs
  dsimp only
  split
  · -- the notice is an error: it carries no connection
    exact h.frame rfl (fun _ _ => by simp) (fun _ => by simp [Except.toOption]) rfl rfl rfl rfl
  · exact h.same rfl rfl rfl rfl rfl rfl

theorem LeaseInv.closePool (h : LeaseInv s) (hs : s.closePool = some s') : LeaseInv s' := by
  obtain ⟨-, rfl⟩ := closePool_cases hs
  exact h.shrink (.refl _) (.refl _) (.refl _) (List.nil_sublist _) rfl (fun _ hc => ⟨hc, rfl⟩)
    (fun _ _ hk ho => h.live_of_opening hk ho)

/-! ### Runs whose releases come from holders -/

/-- Whether a handler of context `ctx` holds connection `c`. -/
def holds (s : Sys) (ctx : ContextId) (c : Nat) : Bool :=
  s.holders.any fun h => h.2 == c && h.1.ctx == ctx

theorem holds_iff {ctx : ContextId} {c : Nat} :
    s.holds ctx c = true ↔ ∃ r, (r, c) ∈ s.holders ∧ r.ctx = ctx := by
  simp only [holds, List.any_eq_true, Bool.and_eq_true, beq_iff_eq, Prod.exists]
  constructor
  · rintro ⟨r, _, hm, rfl, hr⟩
    exact ⟨r, hm, hr⟩
  · rintro ⟨r, hm, hr⟩
    exact ⟨r, c, hm, rfl, hr⟩

/-- Whether an action keeps to releases by holders: a release must come from a context one of
    whose handlers holds the connection; every other action may be taken. -/
def byHolder (s : Sys) : Action → Bool
  | .release ctx c => s.holds ctx c
  | _ => true

/-- A run whose every release comes from a context holding the connection: `none` when a step
    cannot be taken or a release comes from elsewhere. -/
def runByHolders (s : Sys) : List Action → Option Sys
  | [] => some s
  | a :: as => if s.byHolder a then (s.step a).bind (·.runByHolders as) else none

theorem LeaseInv.step {a : Action} (h : LeaseInv s) (hsl : SlotInv s) (hb : s.byHolder a = true)
    (hs : s.step a = some s') : LeaseInv s' := by
  cases a with
  | acquire ctx => exact h.acquire hsl.tracked (ok_of_toOption hs)
  | release ctx c => exact h.release hsl.tracked (holds_iff.1 hb) (release_of_step hs)
  | closeConn c =>
    obtain rfl := closeConn_of_step hs
    exact h.closeConn
  | closePool => exact h.closePool hs
  | insert i => exact h.insert hsl hs
  | spawn c => exact h.spawn hs
  | dial c failure => exact h.dial hs
  | settle c => exact h.settle hsl hs
  | finish c => exact h.finish hs
  | free c => exact h.free hsl hs
  | handOff i => exact h.handOff hsl.tracked hs
  | retire i =>
    obtain ⟨c, -, rfl⟩ := Option.map_eq_some_iff.1 hs
    exact h.closeConn.same rfl rfl rfl rfl rfl rfl
  | notify i => exact h.notify hs
  | deliver i => exact h.deliver hs
  | destroy ctx => cases hs; exact h.same rfl rfl rfl rfl rfl rfl
  | shutdown => cases hs; exact h.same rfl rfl rfl rfl rfl rfl

/-- Along a run by holders the leases and the slots are kept, and the run is a run of the pool. -/
theorem LeaseInv.runByHolders {as : List Action} (h : LeaseInv s) (hsl : SlotInv s)
    (hr : s.runByHolders as = some s') : LeaseInv s' ∧ s.run as = some s' := by
  induction as generalizing s with
  | nil =>
    simp only [Sys.runByHolders, Option.some.injEq] at hr
    subst hr
    exact ⟨h, rfl⟩
  | cons a as ih =>
    simp only [Sys.runByHolders] at hr
    split at hr
    · rename_i hb
      obtain ⟨t, hst, hrest⟩ := Option.bind_eq_some_iff.1 hr
      obtain ⟨ht, hrun⟩ := ih (h.step hsl hb hst) (hsl.step hst) hrest
      exact ⟨ht, by simp [Sys.run, hst, hrun]⟩
    · cases hr

end Sys

/-- Lease exclusivity along every run whose releases come from holders. Each connection has at
    most one claim, so at most one handler holds it; a connection given to a request, held by
    its handler or posted to it, is owned by the request's context; the pool's lease on a live
    held connection names the holder's context; and the run is a run of the pool. -/
theorem lease_exclusive_for_holders {endpoint : Endpoint} {config : PoolConfig}
    {transport : PoolTransport} {as : List Action} {s : Sys}
    (hrun : (Sys.start endpoint config transport).runByHolders as = some s) :
    (∀ c, s.claims c ≤ 1) ∧
    (∀ c, s.holders.countP (·.2 == c) ≤ 1) ∧
    (∀ r c, (r, c) ∈ s.holders ∨ (r, .ok c) ∈ s.inbox →
      ∃ k, s.conn? c = some k ∧ k.owner = r.ctx) ∧
    (∀ r c, (r, c) ∈ s.holders → c ∈ s.pool.liveIds → s.pool.leaseOf c = some (.held r.ctx)) ∧
    (Sys.start endpoint config transport).run as = some s := by
  obtain ⟨h, hr⟩ := (Sys.leaseInv_start endpoint config transport).runByHolders
    (Sys.slotInv_start endpoint config transport) hrun
  refine ⟨h.single, fun c => ?_, h.owned, fun r c hm hl => h.held c r hl (.inl hm), hr⟩
  have := h.single c
  simp only [Sys.claims, Sys.inFlight] at this
  omega

/-- A context releases its connection while a second request of its own waits: the connection
    goes to that request alone, leased to the context. -/
theorem release_to_own_waiter_holds_once :
    let run : List Action := [.acquire ⟨3⟩, .insert 0, .spawn 1, .dial 1 none, .acquire ⟨3⟩,
      .acquire ⟨4⟩, .release ⟨3⟩ 1, .handOff 0, .deliver 0]
    ((Sys.start { host := "mock", port := 4000 } {} (.memory 0)).runByHolders run).any
      (fun s => s.pool.leaseOf 1 == some (.held ⟨3⟩) && s.holders.countP (·.2 == 1) == 1) = true := by
  intro run
  have hheld : ((Sys.start { host := "mock", port := 4000 } {} (.memory 0)).runByHolders run).any
      (fun s => s.holders.contains (⟨1, ⟨3⟩⟩, 1) && s.pool.liveIds.contains 1) = true := by
    decide
  cases hr : (Sys.start { host := "mock", port := 4000 } {} (.memory 0)).runByHolders run with
  | none => rw [hr] at hheld; cases hheld
  | some s =>
    rw [hr] at hheld
    simp only [Option.any_some, Bool.and_eq_true, List.contains_iff_mem] at hheld
    obtain ⟨hm, hl⟩ := hheld
    have h := lease_exclusive_for_holders hr
    have hpos : 0 < s.holders.countP (·.2 == 1) := List.countP_pos_iff.2 ⟨_, hm, rfl⟩
    -- the holder found is the only one, and the pool leases the connection to its context
    have hcount : s.holders.countP (·.2 == 1) = 1 := Nat.le_antisymm (h.2.1 1) hpos
    simp [h.2.2.2.1 _ _ hm hl, hcount]

/-- A context with a second request waiting releases its connection twice. The first release
    leases the connection to that request before its answer runs, so the second passes the lease
    check and hands the connection to the next waiter too: two handlers hold it, and the first
    holds it owned by the other context. A run by holders refuses the second release. -/
theorem double_release_hands_out_twice :
    let run : List Action := [.acquire ⟨3⟩, .insert 0, .spawn 1, .dial 1 none, .acquire ⟨3⟩,
      .acquire ⟨4⟩, .release ⟨3⟩ 1, .release ⟨3⟩ 1, .handOff 0, .handOff 0, .deliver 0,
      .deliver 0]
    ((Sys.start { host := "mock", port := 4000 } {} (.memory 0)).run run).map
      (fun s => (s.holders, (s.conn? 1).map (·.owner))) =
      some ([(⟨1, ⟨3⟩⟩, 1), (⟨2, ⟨4⟩⟩, 1)], some ⟨4⟩) ∧
    ((Sys.start { host := "mock", port := 4000 } {} (.memory 0)).runByHolders run).isNone = true := by
  decide

end PoolSystem

end Affinity
