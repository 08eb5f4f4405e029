import Affinity.Proofs.Connection.Machine
/-!
The callbacks of a connection run in the order its driver issued the events.

The driver issues its events one after another, each under the connection's stamp at the time
(`Ghost.emitted`). An event runs its callback at once when the driver is on the owner's
context, and otherwise waits as an item on the owner's worker, whose queue runs oldest first.
An item whose stamp has changed runs nothing, except the closed notice, which is sent on to the
new owner. Order is kept because of four facts, which together make the invariant `OrderedAt`:

* the events waiting under the current stamp (`World.live`) all wait on one worker, the
  owner's (`World.Lane`), and none waits while the driver runs on the owner's context;
* every change of owner or of callbacks changes the stamp to a generation not seen before, so
  what waits under the old stamp never runs a callback again;
* a closed notice under an old stamp waits only when nothing else does, and when it is sent on
  it becomes the one event waiting under the current stamp;
* the callbacks that ran, then the events waiting under the current stamp, then the closed
  notices under old ones, are in this order a sublist of the events issued, and the closed event
  is issued last.

Main statement: `callbacks_in_issue_order`: in every run from an opened connection, the events
of the callbacks that ran are a sublist of the events the driver issued, so data reaches the
callbacks in the order it was read and no chunk twice; the closed callback runs at most once, and
after every other.
-/

namespace Affinity

open ConnSystem

namespace World

/-- The events of connection `id` waiting on worker `k` under stamp `s`, oldest first. -/
def liveAt (w : World) (id : Nat) (s : Stamp) (k : Nat) : List Ev :=
  (w.pending id k).filterMap fun p => if p.2 = s then some p.1 else none

/-- The events of connection `id` waiting under stamp `s`, on any worker. -/
def live (w : World) (id : Nat) (s : Stamp) : List Ev :=
  (w.allPending id).filterMap fun p => if p.2 = s then some p.1 else none

/-- How many closed notices of connection `id` wait under a stamp other than `s`. -/
def staleNotices (w : World) (id : Nat) (s : Stamp) : Nat :=
  (w.allPending id).countP fun p => p.1 = .signal .closed ∧ p.2 ≠ s

/-- The context of a stamp's owner lives on worker `k`, or is gone for good. -/
def Pinned (w : World) (s : Stamp) (k : Nat) : Prop :=
  (w.registry.workerOf s.owner).map (·.index) = some k ∨
    (w.registry.workerOf s.owner = none ∧ s.owner.val < w.registry.nextId)

/-- The events waiting under stamp `s` all wait on worker `k`, and while there are any, `k` is
    where the stamp's owner lives. -/
def LaneAt (w : World) (id : Nat) (s : Stamp) (k : Nat) : Prop :=
  (∀ j ≠ k, w.liveAt id s j = []) ∧ (w.liveAt id s k ≠ [] → w.Pinned s k)

/-- The events waiting under stamp `s` all wait on one worker, the owner's. -/
def Lane (w : World) (id : Nat) (s : Stamp) : Prop := ∃ k, w.LaneAt id s k

variable {id : Nat} {w w' : World} {s : Stamp}

section Unchanged

variable (y : Exec) (n : Note) (i : Nat) (f : Connection → Connection) (ev : Ev) (h : Handlers)

@[simp] theorem live_runSlot : (w.runSlot y id ev h).live id s = w.live id s := by simp [live]
@[simp] theorem staleNotices_runSlot : (w.runSlot y id ev h).staleNotices id s = w.staleNotices id s := by
  simp [staleNotices]
@[simp] theorem lane_runSlot : (w.runSlot y id ev h).Lane id s ↔ w.Lane id s := by
  simp [Lane, LaneAt, Pinned, liveAt]
@[simp] theorem live_modifyConn : (w.modifyConn i f).live id s = w.live id s := rfl
@[simp] theorem staleNotices_modifyConn : (w.modifyConn i f).staleNotices id s = w.staleNotices id s := rfl
@[simp] theorem lane_modifyConn : (w.modifyConn i f).Lane id s ↔ w.Lane id s := Iff.rfl

end Unchanged

/-- A list made of lists of which only the one at `k` may be non-empty is that one. -/
theorem flatMap_eq_of_single {α : Type} {g : Nat → List α} {k : Nat} (h : ∀ j ≠ k, g j = []) :
    ∀ {l : List Nat}, l.Nodup → l.flatMap g = if k ∈ l then g k else []
  | [], _ => rfl
  | j :: l, hn => by
    rw [List.nodup_cons] at hn
    rw [List.flatMap_cons, flatMap_eq_of_single h hn.2]
    by_cases hj : j = k
    · subst hj
      simp [hn.1]
    · simp [h j hj, Ne.symm hj]

theorem pending_of_le {k : Nat} (hk : w.workers.size ≤ k) : w.pending id k = [] := by
  simp [pending, items, queue, Array.getElem?_eq_none hk]

/-- What waits under a stamp on one worker only is all that waits under it. -/
theorem live_eq_liveAt {k : Nat} (h : ∀ j ≠ k, w.liveAt id s j = []) : w.live id s = w.liveAt id s k := by
  have hl : w.live id s = (List.range w.workers.size).flatMap (w.liveAt id s) := by
    simp only [live, allPending, List.filterMap_flatMap]
    rfl
  rw [hl, flatMap_eq_of_single h List.nodup_range]
  split
  · rfl
  · rename_i hk
    simp [liveAt, pending_of_le (Nat.le_of_not_lt (by simpa using hk))]

theorem LaneAt.live_eq {k : Nat} (h : w.LaneAt id s k) : w.live id s = w.liveAt id s k := live_eq_liveAt h.1

/-! #### How the waiting events change -/

theorem liveAt_push (k : Nat) (ctx : ContextId) (ev : Ev) (s' : Stamp) (j : Nat) :
    (w.modifyWorker k (·.push (.run ctx (.work (ev.work id s'))))).liveAt id s j =
      if k = j ∧ j < w.workers.size ∧ s' = s then w.liveAt id s j ++ [ev] else w.liveAt id s j := by
  simp only [liveAt, pending_push, Work.event?_work]
  by_cases h₁ : k = j ∧ j < w.workers.size
  · by_cases h₂ : s' = s <;> simp [h₁, h₂, List.filterMap_append]
  · simp only [h₁, if_false]
    rw [if_neg (fun h => h₁ ⟨h.1, h.2.1⟩)]

/-- Queuing an event under the current stamp for the owner, on the owner's worker: it joins the
    end of the waiting events, and they still wait on one worker. -/
theorem Lane.push (hl : w.Lane id s) {k : WorkerId} (hk : w.registry.workerOf s.owner = some k) (ev : Ev) :
    (w.modifyWorker k.index (·.push (.run s.owner (.work (ev.work id s))))).Lane id s ∧
    (w.modifyWorker k.index (·.push (.run s.owner (.work (ev.work id s))))).live id s =
      w.live id s ++ if k.index < w.workers.size then [ev] else [] := by
  obtain ⟨l, hl₁, hl₂⟩ := hl
  -- whatever waited, waited on the owner's worker
  have hall : ∀ j ≠ k.index, w.liveAt id s j = [] := by
    by_cases h₀ : w.liveAt id s l = []
    · intro j _
      by_cases hj : j = l
      · exact hj ▸ h₀
      · exact hl₁ j hj
    · rcases hl₂ h₀ with hp | ⟨hn, -⟩
      · rw [hk] at hp
        obtain rfl : k.index = l := Option.some.inj hp
        exact hl₁
      · rw [hk] at hn
        cases hn
  have hall' : ∀ j ≠ k.index,
      (w.modifyWorker k.index (·.push (.run s.owner (.work (ev.work id s))))).liveAt id s j = [] := by
    intro j hj
    rw [liveAt_push, if_neg (fun h => hj h.1.symm)]
    exact hall j hj
  refine ⟨⟨k.index, hall', fun _ => .inl (by simp [hk])⟩, ?_⟩
  rw [live_eq_liveAt hall', live_eq_liveAt hall, liveAt_push]
  by_cases hs : k.index < w.workers.size <;> simp [hs]

/-- Nothing waits under a stamp that no waiting event carries. -/
theorem liveAt_of_fresh (h : ∀ k p, p ∈ w.pending id k → p.2 ≠ s) (k : Nat) : w.liveAt id s k = [] := by
  simp only [liveAt, List.filterMap_eq_nil_iff]
  intro p hp
  simp [h k p hp]

theorem lane_of_fresh (h : ∀ k p, p ∈ w.pending id k → p.2 ≠ s) : w.Lane id s :=
  ⟨0, fun j _ => liveAt_of_fresh h j, fun h' => absurd (liveAt_of_fresh h 0) h'⟩

theorem live_of_fresh (h : ∀ k p, p ∈ w.pending id k → p.2 ≠ s) : w.live id s = [] := by
  rw [live_eq_liveAt fun j (_ : j ≠ 0) => liveAt_of_fresh h j, liveAt_of_fresh h]

/-- Under a stamp that no waiting event carries, every closed notice is stale: the stale ones
    and those that waited under the stamp `s`. -/
theorem staleNotices_of_fresh {s' : Stamp} (h : ∀ k p, p ∈ w.pending id k → p.2 ≠ s') :
    w.staleNotices id s' = w.staleNotices id s + (w.live id s).count (.signal .closed) := by
  have hall : ∀ p ∈ w.allPending id, p.2 ≠ s' := by
    intro p hp
    obtain ⟨k, -, hk⟩ := List.mem_flatMap.mp hp
    exact h k p hk
  simp only [staleNotices, live]
  generalize w.allPending id = l at hall ⊢
  induction l with
  | nil => rfl
  | cons p ps ih =>
    have hp := hall p List.mem_cons_self
    simp only [List.countP_cons, ih fun q hq => hall q (List.mem_cons_of_mem p hq)]
    by_cases hs : p.2 = s
    · have hs' : s ≠ s' := hs ▸ hp
      by_cases hc : p.1 = .signal .closed <;> simp [hs, hs', hc] <;> omega
    · by_cases hc : p.1 = .signal .closed <;> simp [hp, hs, hc] <;> omega

/-- The front item of a queue, taken off: under stamp `s` the waiting events lose it if it
    carries `s`, and otherwise stay as they were. -/
theorem liveAt_front {k : Nat} {ctx : ContextId} {wk : Work} {rest : List Command} {p : Ev × Stamp}
    (hq : w.queue k = .run ctx (.work wk) :: rest) (hp : wk.event? id = some p) :
    w.liveAt id s k = (if p.2 = s then [p.1] else []) ++ (w.takeFront k ctx rest).liveAt id s k := by
  rw [liveAt, pending_front k hq hp]
  by_cases hs : p.2 = s <;> simp [liveAt, hs]

theorem liveAt_takeFront_of_ne {k : Nat} {ctx : ContextId} {wk : Work} {rest : List Command}
    (hq : w.queue k = .run ctx (.work wk) :: rest) {j : Nat} (hj : j ≠ k) :
    (w.takeFront k ctx rest).liveAt id s j = w.liveAt id s j := by
  simp [liveAt, pending_takeFront_of_ne k hq hj]

theorem LaneAt.takeFront {k l : Nat} {ctx : ContextId} {wk : Work} {rest : List Command} {p : Ev × Stamp}
    (hl : w.LaneAt id s l) (hq : w.queue k = .run ctx (.work wk) :: rest) (hp : wk.event? id = some p) :
    (w.takeFront k ctx rest).LaneAt id s l := by
  have hsub : ∀ j, (w.takeFront k ctx rest).liveAt id s j = [] ∨
      (w.takeFront k ctx rest).liveAt id s j ≠ [] ∧ w.liveAt id s j ≠ [] := by
    intro j
    by_cases hj : j = k
    · subst hj
      rw [liveAt_front hq hp]
      by_cases he : (w.takeFront j ctx rest).liveAt id s j = [] <;> simp [he]
    · rw [liveAt_takeFront_of_ne hq hj]
      by_cases he : w.liveAt id s j = [] <;> simp [he]
  refine ⟨fun j hj => ?_, fun hne => ?_⟩
  · rcases hsub j with h | ⟨-, h⟩
    · exact h
    · exact absurd (hl.1 j hj) h
  · rcases hsub l with h | ⟨-, h⟩
    · exact absurd h hne
    · -- the registry only marks the context bound
      have := hl.2 h
      simpa [Pinned, Registry.workerOf_bind] using this

/-- Taking the front item off a queue: if it carries the stamp `s`, it is the first event
    waiting under `s`. -/
theorem LaneAt.live_takeFront {k l : Nat} {ctx : ContextId} {wk : Work} {rest : List Command}
    {p : Ev × Stamp} (hl : w.LaneAt id s l) (hq : w.queue k = .run ctx (.work wk) :: rest)
    (hp : wk.event? id = some p) :
    w.live id s = (if p.2 = s then [p.1] else []) ++ (w.takeFront k ctx rest).live id s := by
  have hl' := hl.takeFront hq hp
  by_cases hs : p.2 = s
  · -- the front item waits under `s`, so its worker is the lane
    have hk : k = l := by
      refine Classical.byContradiction fun hne => ?_
      have := hl.1 k hne
      rw [liveAt_front hq hp, if_pos hs] at this
      simp at this
    subst hk
    rw [hl.live_eq, hl'.live_eq, liveAt_front hq hp]
  · rw [hl.live_eq, hl'.live_eq, if_neg hs, List.nil_append]
    by_cases hk : k = l
    · subst hk
      rw [liveAt_front hq hp, if_neg hs, List.nil_append]
    · exact (liveAt_takeFront_of_ne hq (Ne.symm hk)).symm

theorem staleNotices_takeFront {k : Nat} {ctx : ContextId} {wk : Work} {rest : List Command} {p : Ev × Stamp}
    (hq : w.queue k = .run ctx (.work wk) :: rest) (hp : wk.event? id = some p) :
    w.staleNotices id s = (w.takeFront k ctx rest).staleNotices id s +
      if p.1 = .signal .closed ∧ p.2 ≠ s then 1 else 0 := by
  simp only [staleNotices, (allPending_takeFront k hq hp).countP_eq, List.countP_cons]
  by_cases h : p.1 = .signal .closed ∧ p.2 ≠ s <;> simp [h]

theorem staleNotices_takeFront_current {k : Nat} {ctx : ContextId} {wk : Work} {rest : List Command} {ev : Ev}
    (hq : w.queue k = .run ctx (.work wk) :: rest) (hp : wk.event? id = some (ev, s)) :
    w.staleNotices id s = (w.takeFront k ctx rest).staleNotices id s := by
  have h : w.staleNotices id s = _ + _ := staleNotices_takeFront hq hp
  simpa using h

theorem staleNotices_takeFront_stale {k : Nat} {ctx : ContextId} {wk : Work} {rest : List Command} {s' : Stamp}
    (hq : w.queue k = .run ctx (.work wk) :: rest) (hp : wk.event? id = some (.signal .closed, s')) (hs : s' ≠ s) :
    w.staleNotices id s = (w.takeFront k ctx rest).staleNotices id s + 1 := by
  have h : w.staleNotices id s = _ + _ := staleNotices_takeFront hq hp
  simpa [hs] using h

/-- Queuing an event under the stamp `s` leaves the stale notices as they were. -/
theorem staleNotices_push (k : Nat) (ev : Ev) :
    (w.modifyWorker k (·.push (.run s.owner (.work (ev.work id s))))).staleNotices id s =
      w.staleNotices id s := by
  by_cases hk : k < w.workers.size
  · simp [staleNotices, (allPending_push k hk).countP_eq]
  · simp [staleNotices, allPending_push_of_le k (Nat.le_of_not_lt hk)]

end World

namespace ConnSystem

variable {id : Nat} {w w' : World} {s : Stamp}

theorem Rely.live (h : Rely id w w') : (w'.live id s).Sublist (w.live id s) :=
  h.allPending.filterMap _

theorem Rely.staleNotices (h : Rely id w w') : w'.staleNotices id s ≤ w.staleNotices id s :=
  h.allPending.countP_le

/-- The rest of the world keeps the lane: it drops waiting events only, and keeps a live
    context on its worker and a context that is gone out of the registry. -/
theorem Rely.lane (h : Rely id w w') (hn : w.registry.Numbered) (hl : w.Lane id s) : w'.Lane id s := by
  obtain ⟨l, hl₁, hl₂⟩ := hl
  have hsub : ∀ j, (w'.liveAt id s j).Sublist (w.liveAt id s j) := fun j => (h.pending j).filterMap _
  refine ⟨l, fun j hj => List.sublist_nil.mp (hl₁ j hj ▸ hsub j), fun hne => ?_⟩
  have hne' : w.liveAt id s l ≠ [] := fun he => hne (List.sublist_nil.mp (he ▸ hsub l))
  -- the owner's context was numbered below the next id, so the registry cannot hand it out again
  have hlt : s.owner.val < w.registry.nextId := by
    rcases hl₂ hne' with hp | ⟨-, hlt⟩
    · cases hk : w.registry.workerOf s.owner with
      | none => simp [hk] at hp
      | some k => exact hn _ _ hk
    · exact hlt
  cases hk' : w'.registry.workerOf s.owner with
  | none => exact .inr ⟨hk', Nat.lt_of_lt_of_le hlt h.nextId⟩
  | some k' =>
    rcases h.pinned _ _ hk' with hk | hge
    · rcases hl₂ hne' with hp | ⟨hn', -⟩
      · rw [hk] at hp
        exact .inl (by rw [hk']; exact hp)
      · rw [hn'] at hk
        cases hk
    · exact absurd hge (Nat.not_le_of_lt hlt)

/-! ### The closed event comes last -/

/-- The events the driver issued, oldest first. -/
def Ghost.events (g : Ghost) : List Ev := g.emitted.map (·.1)

@[simp] theorem Ghost.events_issue (g : Ghost) (ev : Ev) (s : Stamp) :
    { g with emitted := g.emitted ++ [(ev, s)] }.events = g.events ++ [ev] := by
  simp [Ghost.events]

/-- The closed event, if a list of events has it, is its last. -/
def ClosedLast (l : List Ev) : Prop := ∀ pre post, l = pre ++ .signal .closed :: post → post = []

section ClosedLast

variable {l E : List Ev}

theorem closedLast_of_not_mem (h : .signal .closed ∉ l) : ClosedLast l :=
  fun pre _ he => absurd (he ▸ List.mem_append_right pre List.mem_cons_self) h

theorem closedLast_append_closed (h : .signal .closed ∉ l) : ClosedLast (l ++ [.signal .closed]) := by
  intro pre post he
  rcases List.eq_nil_or_concat post with hp | ⟨post', b, rfl⟩
  · exact hp
  · -- a closed event before the appended one would be one of `l`
    have he' : l ++ [.signal .closed] = (pre ++ .signal .closed :: post') ++ [b] := by
      simpa using he
    obtain ⟨hl, -⟩ := List.append_inj' he' rfl
    exact absurd (hl ▸ List.mem_append_right pre List.mem_cons_self) h

/-- A list of events whose closed event comes last has it at most once. -/
theorem ClosedLast.count_le (h : ClosedLast l) : l.count (.signal .closed) ≤ 1 := by
  by_cases hm : .signal .closed ∈ l
  · obtain ⟨pre, post, rfl⟩ := List.append_of_mem hm
    obtain rfl := h pre post rfl
    have hpre : .signal .closed ∉ pre := by
      intro hc
      obtain ⟨a, b, rfl⟩ := List.append_of_mem hc
      have := h a (b ++ [.signal .closed]) (by simp)
      simp at this
    simp [List.count_eq_zero.mpr hpre]
  · simp [List.count_eq_zero.mpr hm]

/-- In a sublist of a list whose closed event comes last, nothing follows a closed event. -/
theorem ClosedLast.tail_nil {r : List Ev} (h : ClosedLast E) (hs : (l ++ .signal .closed :: r).Sublist E) :
    r = [] := by
  obtain ⟨E₁, E₂, rfl, -, h₂⟩ := List.append_sublist_iff.mp hs
  obtain ⟨F₁, F₂, rfl, hm, hr⟩ := List.cons_sublist_iff.mp h₂
  obtain ⟨a, b, rfl⟩ := List.append_of_mem hm
  have := h (E₁ ++ a) (b ++ F₂) (by simp)
  simp only [List.append_eq_nil_iff] at this
  exact List.sublist_nil.mp (this.2 ▸ hr)

/-- Dropping events keeps the closed one last. -/
theorem ClosedLast.sublist (h : ClosedLast E) (hs : l.Sublist E) : ClosedLast l :=
  fun _ _ he => h.tail_nil (he ▸ hs)

theorem ClosedLast.append_not_closed {ev : Ev} (h : .signal .closed ∉ l) (hev : ev ≠ .signal .closed) :
    ClosedLast (l ++ [ev]) :=
  closedLast_of_not_mem (by simp [h, Ne.symm hev])

end ClosedLast

/-- The closed notices that waited under a stamp become stale when it changes: in the order,
    they move behind the callbacks that ran and the others are dropped. -/
theorem order_restamp {C L E : List Ev} {n : Nat}
    (h : (C ++ L ++ List.replicate n (Ev.signal .closed)).Sublist E) :
    (C ++ [] ++ List.replicate (n + L.count (Ev.signal .closed)) (Ev.signal .closed)).Sublist E := by
  have hf : List.replicate (L.count (.signal .closed)) (Ev.signal .closed) = L.filter (· = .signal .closed) :=
    (List.filter_eq _).symm
  refine List.Sublist.trans ?_ h
  rw [List.append_nil, Nat.add_comm, ← List.replicate_append_replicate, hf, ← List.append_assoc]
  exact (List.filter_sublist.append_left C).append_right _

/-! ### The order invariant -/

/-- The order invariant, for a connection whose stamp is `s` and whose state is `st` in `w`. -/
structure OrderedAt (id : Nat) (x : Exec) (w : World) (g : Ghost) (s : Stamp) (st : ConnectionState) :
    Prop where
  /-- Every waiting event is under the current stamp or of an older generation. -/
  older : ∀ k p, p ∈ w.pending id k → p.2 = s ∨ p.2.epoch < s.epoch
  lane : w.Lane id s
  /-- Before the driver starts, and once the connection was aborted, nothing waits. -/
  quiet : g.drive = .pending ∨ g.drive = .aborted → w.live id s = []
  /-- While the driver runs on the owner's context, nothing waits. -/
  inline : g.drive = .running → x.ctx = some s.owner → w.live id s = []
  /-- A closed notice under an old stamp waits only when nothing waits under the current one. -/
  stale : w.staleNotices id s ≠ 0 → w.live id s = []
  running : g.drive ≠ .stopped → Ev.signal .closed ∉ g.events
  stopped : g.drive = .stopped → st = .closed
  last : ClosedLast g.events
  /-- The callbacks that ran, the events waiting under the current stamp, and the closed
      notices under old ones are, in this order, among the events issued. -/
  order : ((w.callbacks id).map (·.1) ++ w.live id s ++
    List.replicate (w.staleNotices id s) (Ev.signal .closed)).Sublist g.events

/-- The order invariant of a state. -/
def Ordered (id : Nat) (x : Exec) (t : St) : Prop :=
  ∃ c, t.world.conn? id = some c ∧ OrderedAt id x t.world t.ghost c.stamp c.state

namespace OrderedAt

variable {x : Exec} {g : Ghost} {st : ConnectionState}

theorem callbacks_sublist (ho : OrderedAt id x w g s st) : ((w.callbacks id).map (·.1)).Sublist g.events :=
  ((List.sublist_append_left _ _).trans (List.sublist_append_left _ _)).trans ho.order

theorem live_sublist (ho : OrderedAt id x w g s st) : (w.live id s).Sublist g.events :=
  ((List.sublist_append_right _ _).trans (List.sublist_append_left _ _)).trans ho.order

/-- Before the driver stops no closed notice waits. -/
theorem stale_eq_zero (ho : OrderedAt id x w g s st) (hd : g.drive ≠ .stopped) : w.staleNotices id s = 0 := by
  refine Classical.byContradiction fun hn => ho.running hd ?_
  exact (List.sublist_append_right _ _).trans ho.order |>.subset (List.mem_replicate.mpr ⟨hn, rfl⟩)

theorem closed_not_live (ho : OrderedAt id x w g s st) (hd : g.drive ≠ .stopped) :
    Ev.signal .closed ∉ w.live id s :=
  fun h => ho.running hd (ho.live_sublist.subset h)

/-- The rest of the world keeps the order: it drops waiting events only. -/
theorem rely (ho : OrderedAt id x w g s st) (hn : w.registry.Numbered) (h : Rely id w w') :
    OrderedAt id x w' g s st where
  older k p hp := ho.older k p ((h.pending k).subset hp)
  lane := h.lane hn ho.lane
  quiet hd := List.sublist_nil.mp (ho.quiet hd ▸ h.live)
  inline hd hx := List.sublist_nil.mp (ho.inline hd hx ▸ h.live)
  stale hn' := List.sublist_nil.mp (ho.stale (fun h0 => hn' (Nat.le_zero.mp (h0 ▸ h.staleNotices))) ▸ h.live)
  running := ho.running
  stopped := ho.stopped
  last := ho.last
  order := by
    refine List.Sublist.trans ?_ ho.order
    rw [h.callbacks]
    exact (h.live.append_left _).append ((List.replicate_sublist_replicate _).mpr h.staleNotices)

/-- Moving to a stamp of a new generation: nothing waits under it, and the closed notices that
    waited under the old stamp become stale. -/
theorem restamp (ho : OrderedAt id x w g s st) {g' : Ghost} {st' : ConnectionState} (o : ContextId)
    (hE : g.events.Sublist g'.events) (hlast : ClosedLast g'.events)
    (hrun : g'.drive ≠ .stopped → Ev.signal .closed ∉ g'.events) (hstop : g'.drive = .stopped → st' = .closed) :
    OrderedAt id x w g' ⟨o, s.epoch + 1⟩ st' := by
  have hlt : ∀ k p, p ∈ w.pending id k → p.2.epoch < s.epoch + 1 := by
    intro k p hp
    rcases ho.older k p hp with h | h
    · rw [h]
      exact Nat.lt_succ_self _
    · exact Nat.lt_succ_of_lt h
  have hfresh : ∀ k p, p ∈ w.pending id k → p.2 ≠ ⟨o, s.epoch + 1⟩ := by
    intro k p hp he
    have := hlt k p hp
    rw [he] at this
    exact Nat.lt_irrefl _ this
  have hlive := World.live_of_fresh hfresh
  refine ⟨fun k p hp => .inr (hlt k p hp), World.lane_of_fresh hfresh, fun _ => hlive, fun _ _ => hlive,
    fun _ => hlive, hrun, hstop, hlast, ?_⟩
  rw [hlive, World.staleNotices_of_fresh hfresh]
  exact (order_restamp ho.order).trans hE

/-- Updating connections leaves the waiting items, the callbacks and the registry alone. -/
theorem modifyConn (ho : OrderedAt id x w g s st) (i : Nat) (f : Connection → Connection) :
    OrderedAt id x (w.modifyConn i f) g s st :=
  ⟨ho.older, ho.lane, ho.quiet, ho.inline, ho.stale, ho.running, ho.stopped, ho.last, ho.order⟩

/-- The invariant reads of the ghost only the events issued and how far the driver got. -/
theorem ghost_update (ho : OrderedAt id x w g s st) {g' : Ghost} (he : g'.events = g.events)
    (hd : g'.drive = g.drive) : OrderedAt id x w g' s st :=
  ⟨ho.older, ho.lane, hd ▸ ho.quiet, hd ▸ ho.inline, ho.stale, hd ▸ he ▸ ho.running, hd ▸ ho.stopped,
    he ▸ ho.last, he ▸ ho.order⟩

theorem older_push (ho : OrderedAt id x w g s st) (k : Nat) (ev : Ev) :
    ∀ j p, p ∈ (w.modifyWorker k (·.push (.run s.owner (.work (ev.work id s))))).pending id j →
      p.2 = s ∨ p.2.epoch < s.epoch := by
  intro j p hp
  rw [World.pending_push] at hp
  split at hp
  · rcases List.mem_append.mp hp with hp | hp
    · exact ho.older j p hp
    · simp at hp
      exact .inl (hp ▸ rfl)
  · exact ho.older j p hp

/-! #### The driver issues an event -/

section Issue

variable {ev : Ev} {s' : Stamp} (hev : ev ≠ .signal .closed) (hd : g.drive = .running)
include hev hd

theorem issue_events (ho : OrderedAt id x w g s st) :
    Ev.signal .closed ∉ { g with emitted := g.emitted ++ [(ev, s')] }.events := by
  simp [ho.running (by simp [hd]), Ne.symm hev]

/-- The driver on the owner's context runs the callback at once; nothing else waits. -/
theorem emitInline (ho : OrderedAt id x w g s st) (hx : x.ctx = some s.owner) (h : Handlers) :
    OrderedAt id x (w.runSlot x id ev h) { g with emitted := g.emitted ++ [(ev, s)] } s st := by
  have hlive := ho.inline hd hx
  have hst := ho.stale_eq_zero (by simp [hd])
  refine ⟨by simpa using ho.older, by simpa using ho.lane, fun h => by simp [hd] at h,
    fun _ _ => by simpa using hlive, fun _ => by simpa using hlive, fun _ => ho.issue_events hev hd,
    fun h => by simp [hd] at h, closedLast_of_not_mem (ho.issue_events hev hd), ?_⟩
  simp only [World.callbacks_runSlot, World.live_runSlot, World.staleNotices_runSlot, hlive, hst,
    Ghost.events_issue, List.map_append, List.append_nil, List.replicate_zero]
  exact ho.callbacks_sublist.append (by cases ev.slot h <;> simp)

/-- The driver posts the event to the owner's worker, behind what waits there. -/
theorem emitPosted (ho : OrderedAt id x w g s st) (hx : x.ctx ≠ some s.owner) {k : WorkerId}
    (hk : w.registry.workerOf s.owner = some k) :
    OrderedAt id x (w.modifyWorker k.index (·.push (.run s.owner (.work (ev.work id s)))))
      { g with emitted := g.emitted ++ [(ev, s)] } s st := by
  have hst := ho.stale_eq_zero (by simp [hd])
  obtain ⟨hlane, hlive⟩ := ho.lane.push hk ev
  refine ⟨ho.older_push k.index ev, hlane, fun h => by simp [hd] at h, fun _ h => absurd h hx,
    fun h => absurd (by rw [World.staleNotices_push]; exact hst) h, fun _ => ho.issue_events hev hd,
    fun h => by simp [hd] at h, closedLast_of_not_mem (ho.issue_events hev hd), ?_⟩
  have ho' := ho.order
  rw [hst] at ho'
  simp only [World.callbacks_modifyWorker, hlive, World.staleNotices_push, hst, Ghost.events_issue,
    List.replicate_zero, List.append_nil] at ho' ⊢
  rw [← List.append_assoc]
  exact ho'.append (by split <;> simp)

theorem emitLost (ho : OrderedAt id x w g s st) :
    OrderedAt id x w { g with emitted := g.emitted ++ [(ev, s')] } s st :=
  ⟨ho.older, ho.lane, fun h => by simp [hd] at h, fun _ => ho.inline hd, ho.stale,
    fun _ => ho.issue_events hev hd, fun h => by simp [hd] at h,
    closedLast_of_not_mem (ho.issue_events hev hd), ho.order.trans (by simp)⟩

end Issue

/-! #### The driver starts and stops -/

theorem start (ho : OrderedAt id x w g s st) (hd : g.drive = .pending) (st' : ConnectionState) :
    OrderedAt id x w { g with drive := .running } s st' :=
  ⟨ho.older, ho.lane, fun h => by simp at h, fun _ _ => ho.quiet (.inl hd), ho.stale,
    fun _ => ho.running (by simp [hd]), fun h => by simp at h, ho.last, ho.order⟩

theorem finishAgain (ho : OrderedAt id x w g s st) (hs : st = .closed) :
    OrderedAt id x w { g with drive := .stopped } s st :=
  ⟨ho.older, ho.lane, fun h => by simp at h, fun h => by simp at h, ho.stale, fun h => by simp at h,
    fun _ => hs, ho.last, ho.order⟩

section Finish

variable (hd : g.drive = .running) {n : Nat}
include hd

theorem finish_events (ho : OrderedAt id x w g s st) :
    ClosedLast { g with drive := .stopped, emitted := g.emitted ++ [(Ev.signal .closed, s)], hookRuns := n }.events := by
  simpa [Ghost.events] using closedLast_append_closed (ho.running (by simp [hd]))

/-- Finishing the close on the owner's context runs the closed callback at once, when nothing
    waits. -/
theorem finishInline (ho : OrderedAt id x w g s st) (hx : x.ctx = some s.owner) (f₁ f₂ f₃ : Connection → Connection)
    (h : Handlers) :
    OrderedAt id x ((((w.modifyConn id f₁).modifyConn id f₂).runSlot x id (.signal .closed) h).modifyConn id f₃)
      { g with drive := .stopped, emitted := g.emitted ++ [(Ev.signal .closed, s)], hookRuns := n } s .closed := by
  have hlive := ho.inline hd hx
  have hst := ho.stale_eq_zero (by simp [hd])
  refine ⟨by simpa using ho.older, by simpa using ho.lane, fun h => by simp at h, fun h => by simp at h,
    fun h => absurd (by simpa using hst) h, fun h => by simp at h, fun _ => rfl, ho.finish_events hd, ?_⟩
  simp only [World.callbacks_modifyConn, World.live_modifyConn, World.staleNotices_modifyConn,
    World.callbacks_runSlot, World.live_runSlot, World.staleNotices_runSlot, hlive, hst,
    List.map_append, List.append_nil, List.replicate_zero]
  simpa [Ghost.events] using ho.callbacks_sublist.append (by cases Ev.slot (.signal .closed) h <;> simp)

/-- Finishing the close posts the closed notice behind what waits on the owner's worker. -/
theorem finishPosted (ho : OrderedAt id x w g s st) {k : WorkerId} (hk : w.registry.workerOf s.owner = some k) :
    OrderedAt id x (w.modifyWorker k.index (·.push (.run s.owner (.work ((Ev.signal .closed).work id s)))))
      { g with drive := .stopped, emitted := g.emitted ++ [(Ev.signal .closed, s)], hookRuns := n } s .closed := by
  have hst := ho.stale_eq_zero (by simp [hd])
  obtain ⟨hlane, hlive⟩ := ho.lane.push hk (.signal .closed)
  refine ⟨ho.older_push k.index _, hlane, fun h => by simp at h, fun h => by simp at h,
    fun h => absurd (by rw [World.staleNotices_push]; exact hst) h, fun h => by simp at h, fun _ => rfl,
    ho.finish_events hd, ?_⟩
  have ho' := ho.order
  rw [hst] at ho'
  simp only [World.callbacks_modifyWorker, hlive, World.staleNotices_push, hst, List.replicate_zero,
    List.append_nil] at ho' ⊢
  rw [← List.append_assoc]
  simpa [Ghost.events] using ho'.append (by split <;> simp)

end Finish

/-! #### A worker runs an item -/

theorem stopped_of_stale (ho : OrderedAt id x w g s st) (h : w.staleNotices id s ≠ 0) : g.drive = .stopped :=
  Classical.byContradiction fun hd => h (ho.stale_eq_zero hd)

theorem stopped_of_live (ho : OrderedAt id x w g s st) (h : Ev.signal .closed ∈ w.live id s) :
    g.drive = .stopped :=
  Classical.byContradiction fun hd => ho.closed_not_live hd h

section Front

variable {k : Nat} {s' : Stamp} {ev : Ev} {rest : List Command}

theorem older_takeFront (ho : OrderedAt id x w g s st) (hq : w.queue k = .run s'.owner (.work (ev.work id s')) :: rest) :
    ∀ j p, p ∈ (w.takeFront k s'.owner rest).pending id j → p.2 = s ∨ p.2.epoch < s.epoch :=
  fun j p hp => ho.older j p (((rely_takeFront hq).pending j).subset hp)

theorem lane_takeFront (ho : OrderedAt id x w g s st) (hq : w.queue k = .run s'.owner (.work (ev.work id s')) :: rest) :
    (w.takeFront k s'.owner rest).Lane id s := by
  obtain ⟨l, hl⟩ := ho.lane
  exact ⟨l, hl.takeFront hq (Work.event?_work id s' ev)⟩

/-- An item under the current stamp is the first of the events waiting; its callback runs. -/
theorem deliver (ho : OrderedAt id x w g s st) (hq : w.queue k = .run s.owner (.work (ev.work id s)) :: rest)
    (y : Exec) (h : Handlers) :
    OrderedAt id x ((w.takeFront k s.owner rest).runSlot y id ev h) g s st := by
  have hp := Work.event?_work id s ev
  obtain ⟨l, hl⟩ := ho.lane
  have hlive : w.live id s = ev :: (w.takeFront k s.owner rest).live id s := by
    simpa using hl.live_takeFront hq hp
  have hst := World.staleNotices_takeFront_current hq hp
  have hne : w.live id s ≠ [] := by simp [hlive]
  have hst0 : w.staleNotices id s = 0 := Classical.byContradiction fun h => hne (ho.stale h)
  refine ⟨by simpa using ho.older_takeFront hq, by simpa using ho.lane_takeFront hq,
    fun hd => absurd (ho.quiet hd) hne, fun hd hx => absurd (ho.inline hd hx) hne,
    fun h' => absurd (by simpa [← hst] using hst0) h', ho.running, ho.stopped, ho.last, ?_⟩
  have ho' := ho.order
  rw [hlive, hst] at ho'
  simp only [World.callbacks_runSlot, World.callbacks_takeFront, World.live_runSlot, World.staleNotices_runSlot,
    List.map_append]
  refine List.Sublist.trans ?_ ho'
  simp only [List.append_assoc]
  exact List.Sublist.append_left (by cases ev.slot h <;> simp) _

/-- The closed notice under the current stamp is the last event waiting; the closed callback
    runs. -/
theorem closedLive (ho : OrderedAt id x w g s st)
    (hq : w.queue k = .run s.owner (.work ((Ev.signal .closed).work id s)) :: rest) (y : Exec)
    (f : Connection → Connection) (h : Handlers) :
    OrderedAt id x (((w.takeFront k s.owner rest).modifyConn id f).runSlot y id (.signal .closed) h) g s st := by
  have hp := Work.event?_work id s (.signal .closed)
  obtain ⟨l, hl⟩ := ho.lane
  have hlive : w.live id s = .signal .closed :: (w.takeFront k s.owner rest).live id s := by
    simpa using hl.live_takeFront hq hp
  have hst := World.staleNotices_takeFront_current hq hp
  -- nothing follows the closed notice: no event was issued after it
  have horder : ((w.callbacks id).map (·.1) ++ Ev.signal .closed ::
      ((w.takeFront k s.owner rest).live id s ++ List.replicate (w.staleNotices id s) (.signal .closed))).Sublist
        g.events := by
    simpa [hlive] using ho.order
  have htail := ho.last.tail_nil horder
  simp only [List.append_eq_nil_iff, List.replicate_eq_nil_iff] at htail
  have hd := ho.stopped_of_live (by simp [hlive])
  refine ⟨by simpa using ho.older_takeFront hq, by simpa using ho.lane_takeFront hq,
    fun h' => by simp [hd] at h', fun h' => by simp [hd] at h',
    fun h' => absurd (by simpa [← hst] using htail.2) h', ho.running, ho.stopped, ho.last, ?_⟩
  have ho' := ho.order
  rw [hlive, htail.1, htail.2] at ho'
  simp only [World.callbacks_runSlot, World.callbacks_modifyConn, World.live_runSlot, World.live_modifyConn,
    World.staleNotices_runSlot, World.staleNotices_modifyConn, ← hst, htail.1, htail.2, List.map_append,
    List.append_nil, List.replicate_zero] at ho' ⊢
  exact List.Sublist.trans ((List.Sublist.refl _).append (by cases Ev.slot (.signal .closed) h <;> simp)) ho'

/-- A closed notice under an old stamp runs the closed callback when its owner is still the
    owner: it was the only event waiting. -/
theorem closedStale (ho : OrderedAt id x w g s st)
    (hq : w.queue k = .run s'.owner (.work ((Ev.signal .closed).work id s')) :: rest) (hs : s' ≠ s) (y : Exec)
    (f : Connection → Connection) (h : Handlers) :
    OrderedAt id x (((w.takeFront k s'.owner rest).modifyConn id f).runSlot y id (.signal .closed) h) g s st := by
  have hp := Work.event?_work id s' (.signal .closed)
  obtain ⟨l, hl⟩ := ho.lane
  have hst := World.staleNotices_takeFront_stale hq hp hs
  have hlive₀ : w.live id s = [] := ho.stale (by omega)
  have hlive : (w.takeFront k s'.owner rest).live id s = [] := by
    simpa [hs, hlive₀] using (hl.live_takeFront hq hp).symm
  have hd := ho.stopped_of_stale (by omega)
  refine ⟨by simpa using ho.older_takeFront hq, by simpa using ho.lane_takeFront hq,
    fun h' => by simp [hd] at h', fun h' => by simp [hd] at h', fun _ => by simpa using hlive, ho.running,
    ho.stopped, ho.last, ?_⟩
  have ho' := ho.order
  rw [hlive₀, hst, List.replicate_succ] at ho'
  simp only [World.callbacks_runSlot, World.callbacks_modifyConn, World.live_runSlot, World.live_modifyConn,
    World.staleNotices_runSlot, World.staleNotices_modifyConn, hlive, List.map_append, List.append_nil] at ho' ⊢
  refine List.Sublist.trans ?_ ho'
  simp only [List.append_assoc]
  exact List.Sublist.append_left (by cases Ev.slot (.signal .closed) h <;> simp) _

/-- A closed notice under an old stamp is posted on to the owner's worker, where it becomes the
    one event waiting. -/
theorem resend (ho : OrderedAt id x w g s st)
    (hq : w.queue k = .run s'.owner (.work ((Ev.signal .closed).work id s')) :: rest) (hs : s' ≠ s)
    {k' : WorkerId} (hk : w.registry.workerOf s.owner = some k') :
    OrderedAt id x ((w.takeFront k s'.owner rest).modifyWorker k'.index
      (·.push (.run s.owner (.work ((Ev.signal .closed).work id s))))) g s st := by
  have hp := Work.event?_work id s' (.signal .closed)
  obtain ⟨l, hl⟩ := ho.lane
  have hst := World.staleNotices_takeFront_stale hq hp hs
  have hlive₀ : w.live id s = [] := ho.stale (by omega)
  have hlive : (w.takeFront k s'.owner rest).live id s = [] := by
    simpa [hs, hlive₀] using (hl.live_takeFront hq hp).symm
  have hd := ho.stopped_of_stale (by omega)
  -- the closed event was issued once, so this was the only stale notice
  have hone : w.staleNotices id s ≤ 1 :=
    Nat.le_trans (List.replicate_sublist_iff.mp ((List.sublist_append_right _ _).trans ho.order)) ho.last.count_le
  have hk' : (w.takeFront k s'.owner rest).registry.workerOf s.owner = some k' := by
    simpa [Registry.workerOf_bind] using hk
  obtain ⟨hlane, hpush⟩ := (ho.lane_takeFront hq).push hk' (.signal .closed)
  have hst' : (w.takeFront k s'.owner rest).staleNotices id s = 0 := by omega
  refine ⟨fun j p hp' => ?_, hlane, fun h' => by simp [hd] at h', fun h' => by simp [hd] at h',
    fun h' => absurd (by rw [World.staleNotices_push]; exact hst') h', ho.running, ho.stopped, ho.last, ?_⟩
  · rw [World.pending_push] at hp'
    split at hp'
    · rcases List.mem_append.mp hp' with hp' | hp'
      · exact ho.older_takeFront hq j p hp'
      · simp at hp'
        exact .inl (hp' ▸ rfl)
    · exact ho.older_takeFront hq j p hp'
  · have ho' := ho.order
    rw [hlive₀, hst, hst'] at ho'
    simp only [World.callbacks_modifyWorker, World.callbacks_takeFront, hpush, hlive, World.staleNotices_push,
      hst', List.replicate_zero, List.append_nil, List.nil_append] at ho' ⊢
    exact List.Sublist.trans ((List.Sublist.refl _).append (by split <;> simp)) ho'

end Front

theorem close (ho : OrderedAt id x w g s st) (hopen : st.isOpen = true) :
    OrderedAt id x w g s .closing :=
  ⟨ho.older, ho.lane, ho.quiet, ho.inline, ho.stale, ho.running,
    fun h => absurd (ho.stopped h ▸ hopen) (by simp [ConnectionState.isOpen]), ho.last, ho.order⟩

end OrderedAt

namespace Ordered

variable {x : Exec}

theorem rely {g : Ghost} (hs : Sound id w) (ho : Ordered id x ⟨w, g⟩) (h : Rely id w w') : Ordered id x ⟨w', g⟩ := by
  obtain ⟨c, hc, ho⟩ := ho
  obtain ⟨c', hc', hcore⟩ := h.conn hc
  have hst : c'.stamp = c.stamp := congrArg Core.stamp hcore
  have hstate : c'.state = c.state := congrArg Core.state hcore
  exact ⟨c', hc', hst ▸ hstate ▸ ho.rely hs.numbered h⟩

/-- Every move keeps the order invariant. -/
theorem move {t v : St} (hs : Sound id t.world) (ho : Ordered id x t) (hm : Move id x t v) : Ordered id x v := by
  obtain ⟨c₀, hc₀, ho⟩ := ho
  -- the connection a move names is the one of the invariant
  have same : ∀ {c : Connection}, t.world.conn? id = some c → c₀ = c := fun hc => Option.some.inj (hc₀.symm.trans hc)
  cases hm with
  | stay => exact ⟨c₀, hc₀, ho⟩
  | emitInline ev hev hd hc hx =>
    obtain rfl := same hc
    exact ⟨c₀, by simpa using hc₀, ho.emitInline hev hd hx _⟩
  | emitPosted ev hev hd hc hx hk =>
    obtain rfl := same hc
    exact ⟨c₀, by simpa using hc₀, ho.emitPosted hev hd hx hk⟩
  | emitLost ev hev hd hc =>
    obtain rfl := same hc
    exact ⟨c₀, hc₀, ho.emitLost hev hd⟩
  | start hd => exact ⟨_, World.conn?_modifyConn_self _ hc₀, (ho.start hd _).modifyConn _ _⟩
  | finishAgain hd hc hs' =>
    obtain rfl := same hc
    exact ⟨c₀, hc₀, ho.finishAgain hs'⟩
  | finishInline hd hc hs' hx =>
    obtain rfl := same hc
    have hd' : _ = Drive.running := hd.resolve_right fun h => hs' (ho.stopped h)
    have hc₁ := World.conn?_modifyConn_self (fun c : Connection => { c with handlers := {} })
      (World.conn?_modifyConn_self (fun c : Connection => { c with state := .closed, queued := 0 }) hc₀)
    exact ⟨_, World.conn?_modifyConn_self _ ((World.conn?_runSlot ..).trans hc₁), ho.finishInline hd' hx _ _ _ _⟩
  | finishPosted hd hc hs' hx hk =>
    obtain rfl := same hc
    have hd' : _ = Drive.running := hd.resolve_right fun h => hs' (ho.stopped h)
    have hc₁ := World.conn?_modifyConn_self (fun c : Connection => { c with state := .closed, queued := 0 }) hc₀
    exact ⟨_, World.conn?_modifyConn_self _ ((World.conn?_modifyWorker ..).trans hc₁),
      ((ho.modifyConn _ _).finishPosted hd' hk).modifyConn _ _⟩
  | finishLost hd hc hs' =>
    obtain rfl := same hc
    have hd' : _ = Drive.running := hd.resolve_right fun h => hs' (ho.stopped h)
    -- the closed notice is lost with the callbacks: the stamp moves on past it
    refine ⟨_, World.conn?_modifyConn_self _ (World.conn?_modifyConn_self _ (World.conn?_modifyConn_self _ hc₀)),
      (((ho.restamp c₀.owner ?_ (ho.finish_events hd') ?_ ?_).modifyConn _ _).modifyConn _ _).modifyConn _ _⟩
    · simp [Ghost.events]
    · simp
    · exact fun _ => rfl
  | abort hd =>
    refine ⟨_, World.conn?_modifyConn_self _ hc₀, (ho.restamp c₀.owner ?_ ?_ ?_ ?_).modifyConn _ _⟩
    · exact .refl _
    · exact ho.last
    · exact fun _ => ho.running (by simp [hd])
    · simp
  | close hc hopen =>
    obtain rfl := same hc
    exact ⟨_, World.conn?_modifyConn_self _ hc₀, (ho.close hopen).modifyConn _ _⟩
  | repin o hh =>
    refine ⟨_, World.conn?_modifyConn_self _ hc₀,
      ((ho.restamp o (.refl _) ho.last ho.running ho.stopped).ghost_update ?_ ?_).modifyConn _ _⟩ <;> rfl
  | release =>
    refine ⟨_, World.conn?_modifyConn_self _ hc₀,
      ((ho.restamp c₀.owner (.refl _) ho.last ho.running ho.stopped).ghost_update ?_ ?_).modifyConn _ _⟩ <;> rfl
  | install y h hc hh hy =>
    obtain rfl := same hc
    refine ⟨_, World.conn?_modifyConn_self _ hc₀, (ho.ghost_update ?_ ?_).modifyConn _ _⟩ <;> rfl
  | deliver k ev s rest hq hev hc hs' =>
    obtain rfl := same hc
    subst hs'
    exact ⟨c₀, by simpa using hc₀, ho.deliver hq _ _⟩
  | discard k ev s rest hq hev hc hs' =>
    exact (show Ordered id x _ from ⟨c₀, hc₀, ho⟩).rely hs (rely_takeFront hq)
  | closed k s rest hq hc hs' =>
    obtain rfl := same hc
    refine ⟨_, (World.conn?_runSlot ..).trans (World.conn?_modifyConn_self _ ((World.conn?_takeFront ..).trans hc₀)),
      ?_⟩
    by_cases hcur : c₀.stamp = s
    · subst hcur
      exact ho.closedLive hq _ _ _
    · exact ho.closedStale hq (Ne.symm hcur) _ _ _
  | resend k s rest hq hc hs' ho' hk =>
    obtain rfl := same hc
    exact ⟨c₀, by simpa using hc₀, ho.resend hq (Ne.symm hs') hk⟩
  | resendLost k s rest hq hc hs' ho' =>
    obtain rfl := same hc
    obtain ⟨c₁, hc₁, ho₁⟩ := (show Ordered id x _ from ⟨c₀, hc₀, ho⟩).rely hs (rely_takeFront hq)
    exact ⟨_, World.conn?_modifyConn_self _ hc₁,
      (ho₁.restamp c₁.owner (.refl _) ho₁.last ho₁.running ho₁.stopped).modifyConn _ _⟩

/-- Every step keeps the order invariant. -/
theorem step {t u : St} (hs : Sound id t.world) (ho : Ordered id x t) (h : Step id x t u) : Ordered id x u := by
  obtain ⟨v, hm, hr, hg⟩ := h.move hs
  obtain ⟨w', g'⟩ := u
  simp only at hg
  subst hg
  exact (ho.move hs hm).rely (hs.move hm) hr

end Ordered

theorem Opened.ordered {s : St} {x : Exec} (h : Opened id s) : Ordered id x s := by
  obtain ⟨c, hc, hstate, -⟩ := h.conn
  have hp : ∀ k, s.world.pending id k = [] := fun k => by simp [World.pending, h.quiet k]
  have hall : s.world.allPending id = [] := by simp [World.allPending, hp]
  have hg : s.ghost.events = [] := by simp [Ghost.events, h.ghost]
  refine ⟨c, hc, fun k p hp' => by simp [hp k] at hp', World.lane_of_fresh fun k p hp' => by simp [hp k] at hp',
    fun _ => by simp [World.live, hall], fun _ _ => by simp [World.live, hall], fun _ => by simp [World.live, hall],
    fun _ => by simp [hg], fun hd => by simp [h.ghost] at hd, by simp [hg, ClosedLast], ?_⟩
  simp [World.live, World.staleNotices, hall, hg, h.silent]

/-- Every state reached from an opened connection keeps the order invariant. -/
theorem Reach.ordered {s t : St} {x : Exec} (ho : Opened id s) (h : Reach id x s t) :
    Sound id t.world ∧ Ordered id x t :=
  Reach.induct (fun t => Sound id t.world ∧ Ordered id x t)
    (fun ⟨hs, hord⟩ hst => ⟨by
      obtain ⟨v, hm, hr, -⟩ := hst.move hs
      exact (hs.move hm).rely hr, hord.step hs hst⟩) ⟨ho.sound, ho.ordered⟩ h

/-- In every run from an opened connection, whether each event runs inline or waits on the
    owner's worker and however often the connection changes hands, the events of the callbacks
    that ran are, in order, a sublist of the events the driver issued: data reaches the callbacks
    in the order it was read and no chunk twice. The closed callback runs at most once, and
    after every other. -/
theorem callbacks_in_issue_order {s t : St} {x : Exec} (ho : Opened id s) (hr : Reach id x s t) :
    ((t.world.callbacks id).map (·.1)).Sublist t.ghost.events ∧
      ((t.world.callbacks id).map (·.1)).count (.signal .closed) ≤ 1 ∧
      ClosedLast ((t.world.callbacks id).map (·.1)) := by
  obtain ⟨-, c, -, hord⟩ := Reach.ordered ho hr
  have hlast := hord.last.sublist hord.callbacks_sublist
  exact ⟨hord.callbacks_sublist, hlast.count_le, hlast⟩

/-- The driver, on the owner's context, starts, is given callbacks, reads one chunk and stops:
    the data callback runs, then the closed one. -/
theorem inline_data_then_closed :
    ∃ t, Reach 1 ⟨some 0, some ⟨1⟩⟩ St.lone t ∧
      (t.world.callbacks 1).map (·.1) = [.data (ByteArray.mk #[7]), .signal .closed] ∧
      ((t.world.callbacks 1).map (·.1)).Sublist t.ghost.events ∧
      ((t.world.callbacks 1).map (·.1)).count (.signal .closed) ≤ 1 ∧
      ClosedLast ((t.world.callbacks 1).map (·.1)) := by
  have hr : Reach 1 ⟨some 0, some ⟨1⟩⟩ St.lone _ :=
    .step (.step (.step (.step (.refl _) (.start rfl))
      (.install ⟨some 0, some ⟨1⟩⟩ { data := some "read", closed := some "gone" } rfl rfl rfl))
      (.emit (.data (ByteArray.mk #[7])) (by decide) rfl rfl)) (.finish (.inl rfl) rfl)
  exact ⟨_, hr, rfl, callbacks_in_issue_order opened_lone hr⟩

end ConnSystem

end Affinity
