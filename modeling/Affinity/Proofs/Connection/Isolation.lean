import Affinity.Proofs.Connection.Machine
/-!
The callbacks of a connection stay within the lease they were installed for.

A connection goes from holder to holder: the pool re-pins it to the next holder's context, the
holder installs its callbacks, and the release drops them. A re-pin and a release each move the
connection to a new stamp (owner, epoch), so a stamp names one stretch of one lease. The driver
issues each event under the stamp current at the time (`Ghost.emitted`), and callbacks are
recorded with the stamp they were installed under (`Ghost.installed`). Isolation rests on two
facts:

* `LeaseAt`: a released connection has no callbacks; the callbacks it has were installed under
  its current stamp; and no stamp recorded so far is of a later generation than the current one,
  so the stamp after a re-pin or a release is new;
* `Traced`: every event waiting on a worker, the closed notice apart, was issued under the stamp
  it carries, and every callback that ran, the closed one apart, belongs to one stamp: it ran on
  the stamp's owner, for an event issued under it, from callbacks installed under it (`Leased`).

The closed notice is not bound to a lease: when the connection changed hands it follows the
connection to its new owner.

Main statement: `callbacks_within_lease`.
-/

namespace Affinity

namespace ConnSystem

/-- A callback that ran, for event `ev` with tag `tag` on context `ctx`, belongs to one stamp: it
    ran on the stamp's owner, for an event issued under the stamp, from callbacks installed under
    it. -/
def Leased (g : Ghost) (ev : Ev) (tag : String) (ctx : Option ContextId) : Prop :=
  ∃ s h, ctx = some s.owner ∧ (ev, s) ∈ g.emitted ∧ (s, h) ∈ g.installed ∧ ev.slot h = some tag

theorem Leased.mono {g g' : Ghost} {ev : Ev} {tag : String} {ctx : Option ContextId} (hl : Leased g ev tag ctx)
    (he : g.emitted ⊆ g'.emitted) (hi : g.installed ⊆ g'.installed) : Leased g' ev tag ctx := by
  obtain ⟨s, h, hctx, hs, hh, hslot⟩ := hl
  exact ⟨s, h, hctx, he hs, hi hh, hslot⟩

/-- The callbacks of connection `c` belong to its current lease. -/
structure LeaseAt (g : Ghost) (c : Connection) : Prop where
  released : g.held = false → c.handlers = {}
  installed : c.handlers ≠ {} → (c.stamp, c.handlers) ∈ g.installed
  /-- No event was issued under a later generation than the current one. -/
  issued : ∀ p ∈ g.emitted, p.2.epoch ≤ c.epoch
  /-- No callbacks were installed under a later generation than the current one. -/
  recorded : ∀ p ∈ g.installed, p.1.epoch ≤ c.epoch

/-- What waits and what ran of connection `id` in world `w` is traced to the events issued and the
    callbacks installed. -/
structure Traced (id : Nat) (w : World) (g : Ghost) : Prop where
  pending : ∀ k p, p ∈ w.pending id k → p.1 ≠ .signal .closed → p ∈ g.emitted
  callbacks : ∀ ev tag ctx, (ev, tag, ctx) ∈ w.callbacks id → ev ≠ .signal .closed → Leased g ev tag ctx

/-- The isolation invariant of a state. -/
def Isolated (id : Nat) (t : St) : Prop :=
  Traced id t.world t.ghost ∧ ∃ c, t.world.conn? id = some c ∧ LeaseAt t.ghost c

namespace LeaseAt

variable {g : Ghost} {c : Connection}

/-- Issuing an event under the current stamp. -/
theorem issue (hl : LeaseAt g c) (ev : Ev) : LeaseAt { g with emitted := g.emitted ++ [(ev, c.stamp)] } c where
  released := hl.released
  installed := hl.installed
  issued p hp := by
    rcases List.mem_append.mp hp with hp | hp
    · exact hl.issued p hp
    · rw [List.mem_singleton.mp hp]
      exact Nat.le_refl _
  recorded := hl.recorded

/-- A change that keeps the callbacks, the stamp and what the ghost records. -/
theorem keep (hl : LeaseAt g c) {g' : Ghost} {c' : Connection} (he : g'.emitted = g.emitted)
    (hi : g'.installed = g.installed) (hh : g'.held = g.held) (hc : c'.handlers = c.handlers)
    (hs : c'.stamp = c.stamp) : LeaseAt g' c' where
  released h := hc ▸ hl.released (hh ▸ h)
  installed h := by
    rw [hi, hc, hs]
    exact hl.installed (hc ▸ h)
  issued p hp := by
    have hep : c'.epoch = c.epoch := congrArg Stamp.epoch hs
    rw [hep]
    exact hl.issued p (he ▸ hp)
  recorded p hp := by
    have hep : c'.epoch = c.epoch := congrArg Stamp.epoch hs
    rw [hep]
    exact hl.recorded p (hi ▸ hp)

/-- Dropping the callbacks, at the same generation or a later one. -/
theorem clear (hl : LeaseAt g c) {g' : Ghost} {c' : Connection} (he : g'.emitted = g.emitted)
    (hi : g'.installed = g.installed) (hc : c'.handlers = {}) (hep : c.epoch ≤ c'.epoch) : LeaseAt g' c' where
  released _ := hc
  installed h := absurd hc h
  issued p hp := Nat.le_trans (hl.issued p (he ▸ hp)) hep
  recorded p hp := Nat.le_trans (hl.recorded p (hi ▸ hp)) hep

/-- Handing a released connection to a new holder. -/
theorem repin (hl : LeaseAt g c) (hh : g.held = false) (o : ContextId) :
    LeaseAt { g with held := true } (c.repin o) :=
  hl.clear rfl rfl (hl.released hh) (Nat.le_succ _)

/-- The holder installs callbacks, under the current stamp. -/
theorem install (hl : LeaseAt g c) (hh : g.held = true) (h : Handlers) :
    LeaseAt { g with installed := g.installed ++ [(c.stamp, h)] } { c with handlers := h } where
  released h := by simp [hh] at h
  installed _ := List.mem_append_right _ (List.mem_singleton_self _)
  issued := hl.issued
  recorded p hp := by
    rcases List.mem_append.mp hp with hp | hp
    · exact hl.recorded p hp
    · rw [List.mem_singleton.mp hp]
      exact Nat.le_refl _

end LeaseAt

namespace Traced

variable {id : Nat} {w : World} {g : Ghost}

theorem mono (ht : Traced id w g) {g' : Ghost} (he : g.emitted ⊆ g'.emitted) (hi : g.installed ⊆ g'.installed) :
    Traced id w g' where
  pending k p hp hev := he (ht.pending k p hp hev)
  callbacks ev tag ctx hcb hev := (ht.callbacks ev tag ctx hcb hev).mono he hi

/-- The issue of an event keeps the trace. -/
theorem issue (ht : Traced id w g) (ev : Ev) (s : Stamp) :
    Traced id w { g with emitted := g.emitted ++ [(ev, s)] } :=
  ht.mono (List.subset_append_left _ _) (List.Subset.refl _)

theorem rely {w' : World} (ht : Traced id w g) (h : Rely id w w') : Traced id w' g where
  pending k p hp := ht.pending k p ((h.pending k).subset hp)
  callbacks ev tag ctx hcb := ht.callbacks ev tag ctx (h.callbacks ▸ hcb)

theorem modifyConn (ht : Traced id w g) (i : Nat) (f : Connection → Connection) :
    Traced id (w.modifyConn i f) g :=
  ⟨ht.pending, ht.callbacks⟩

/-- Running a callback that belongs to one stamp, or the closed one. -/
theorem runSlot (ht : Traced id w g) (y : Exec) (ev : Ev) (h : Handlers)
    (hnew : ev ≠ .signal .closed → ∀ tag, ev.slot h = some tag → Leased g ev tag y.ctx) :
    Traced id (w.runSlot y id ev h) g where
  pending k p hp := ht.pending k p (by simpa using hp)
  callbacks ev' tag ctx hcb hev' := by
    rw [World.callbacks_runSlot] at hcb
    rcases List.mem_append.mp hcb with hcb | hcb
    · exact ht.callbacks ev' tag ctx hcb hev'
    · -- the callback just run
      cases hslot : ev.slot h with
      | none => simp [hslot] at hcb
      | some tag' =>
        simp only [hslot, Option.map_some, Option.toList_some, List.mem_singleton, Prod.mk.injEq] at hcb
        obtain ⟨rfl, rfl, rfl⟩ := hcb
        exact hnew hev' tag hslot

/-- Queuing an event issued under the stamp it carries, or the closed notice. -/
theorem push (ht : Traced id w g) (k : Nat) (o : ContextId) (ev : Ev) (s : Stamp)
    (hnew : ev ≠ .signal .closed → (ev, s) ∈ g.emitted) :
    Traced id (w.modifyWorker k (·.push (.run o (.work (ev.work id s))))) g where
  pending j p hp hev := by
    rw [World.pending_push] at hp
    split at hp
    · rcases List.mem_append.mp hp with hp | hp
      · exact ht.pending j p hp hev
      · simp only [Work.event?_work, Option.toList_some, List.mem_singleton] at hp
        subst hp
        exact hnew hev
    · exact ht.pending j p hp hev
  callbacks := by simpa using ht.callbacks

end Traced

namespace Isolated

variable {id : Nat} {x : Exec}

theorem rely {w w' : World} {g : Ghost} (hi : Isolated id ⟨w, g⟩) (h : Rely id w w') : Isolated id ⟨w', g⟩ := by
  obtain ⟨ht, c, hc, hl⟩ := hi
  obtain ⟨c', hc', hcore⟩ := h.conn hc
  exact ⟨ht.rely h, c', hc', hl.keep rfl rfl rfl (congrArg Core.handlers hcore) (congrArg Core.stamp hcore)⟩

/-- Every move keeps the isolation invariant. -/
theorem move {t v : St} (hi : Isolated id t) (hm : Move id x t v) : Isolated id v := by
  obtain ⟨ht, c₀, hc₀, hl⟩ := hi
  -- the connection a move names is the one of the invariant
  have same : ∀ {c : Connection}, t.world.conn? id = some c → c₀ = c := fun hc => Option.some.inj (hc₀.symm.trans hc)
  have issued : ∀ {g : Ghost} (ev : Ev) (s : Stamp), (ev, s) ∈ { g with emitted := g.emitted ++ [(ev, s)] }.emitted :=
    fun _ _ => List.mem_append_right _ (List.mem_singleton_self _)
  cases hm with
  | stay => exact ⟨ht, c₀, hc₀, hl⟩
  | emitInline ev hev hd hc hx =>
    obtain rfl := same hc
    refine ⟨(ht.issue ev c₀.stamp).runSlot x ev c₀.handlers fun _ tag hslot => ?_, c₀, by simpa using hc₀,
      hl.issue ev⟩
    -- the callback runs inline, on the owner's context, under the current stamp
    have hne : c₀.handlers ≠ {} := fun h => by simp [h] at hslot
    exact ⟨c₀.stamp, c₀.handlers, hx, issued ev c₀.stamp, hl.installed hne, hslot⟩
  | emitPosted ev hev hd hc hx hk =>
    obtain rfl := same hc
    exact ⟨(ht.issue ev c₀.stamp).push _ _ ev _ fun _ => issued ev c₀.stamp, c₀, by simpa using hc₀, hl.issue ev⟩
  | emitLost ev hev hd hc =>
    obtain rfl := same hc
    exact ⟨ht.issue ev c₀.stamp, c₀, hc₀, hl.issue ev⟩
  | start hd =>
    refine ⟨(ht.mono ?_ ?_).modifyConn _ _, _, World.conn?_modifyConn_self _ hc₀, hl.keep rfl rfl rfl rfl rfl⟩
    · exact List.Subset.refl _
    · exact List.Subset.refl _
  | finishAgain hd hc hs =>
    refine ⟨ht.mono ?_ ?_, c₀, hc₀, hl.keep rfl rfl rfl rfl rfl⟩
    · exact List.Subset.refl _
    · exact List.Subset.refl _
  | finishInline hd hc hs hx =>
    obtain rfl := same hc
    have hc₁ := World.conn?_modifyConn_self (fun c : Connection => { c with handlers := {} })
      (World.conn?_modifyConn_self (fun c : Connection => { c with state := .closed, queued := 0 }) hc₀)
    refine ⟨?_, _, World.conn?_modifyConn_self _ ((World.conn?_runSlot ..).trans hc₁), ?_⟩
    · refine ((((ht.mono ?_ ?_).modifyConn _ _).modifyConn _ _).runSlot _ _ _ fun hev => absurd rfl hev).modifyConn _ _
      · exact List.subset_append_left _ _
      · exact List.Subset.refl _
    · exact (hl.issue _).clear rfl rfl rfl (Nat.le_refl _)
  | finishPosted hd hc hs hx hk =>
    obtain rfl := same hc
    have hc₁ := World.conn?_modifyConn_self (fun c : Connection => { c with state := .closed, queued := 0 }) hc₀
    refine ⟨?_, _, World.conn?_modifyConn_self _ ((World.conn?_modifyWorker ..).trans hc₁), ?_⟩
    · refine (((ht.mono ?_ ?_).modifyConn _ _).push _ _ _ _ fun hev => absurd rfl hev).modifyConn _ _
      · exact List.subset_append_left _ _
      · exact List.Subset.refl _
    · exact (hl.issue _).keep rfl rfl rfl rfl rfl
  | finishLost hd hc hs =>
    obtain rfl := same hc
    refine ⟨?_, _, World.conn?_modifyConn_self _ (World.conn?_modifyConn_self _ (World.conn?_modifyConn_self _ hc₀)), ?_⟩
    · refine (((ht.mono ?_ ?_).modifyConn _ _).modifyConn _ _).modifyConn _ _
      · exact List.subset_append_left _ _
      · exact List.Subset.refl _
    · exact (hl.issue _).clear rfl rfl rfl (Nat.le_succ _)
  | abort hd =>
    refine ⟨(ht.mono ?_ ?_).modifyConn _ _, _, World.conn?_modifyConn_self _ hc₀, hl.clear rfl rfl rfl (Nat.le_succ _)⟩
    · exact List.Subset.refl _
    · exact List.Subset.refl _
  | close hc hopen =>
    exact ⟨ht.modifyConn _ _, _, World.conn?_modifyConn_self _ hc₀, hl.keep rfl rfl rfl rfl rfl⟩
  | repin o hh =>
    refine ⟨(ht.mono ?_ ?_).modifyConn _ _, _, World.conn?_modifyConn_self _ hc₀, hl.repin hh o⟩
    · exact List.Subset.refl _
    · exact List.Subset.refl _
  | release =>
    refine ⟨(ht.mono ?_ ?_).modifyConn _ _, _, World.conn?_modifyConn_self _ hc₀, hl.clear rfl rfl rfl (Nat.le_succ _)⟩
    · exact List.Subset.refl _
    · exact List.Subset.refl _
  | install y h hc hh hy =>
    obtain rfl := same hc
    refine ⟨(ht.mono ?_ ?_).modifyConn _ _, _, World.conn?_modifyConn_self _ hc₀, hl.install hh h⟩
    · exact List.Subset.refl _
    · exact List.subset_append_left _ _
  | @deliver w g c k ev s rest hq hev hc hs =>
    obtain rfl := same hc
    subst hs
    -- the item at the front was issued under the current stamp
    have hemitted : (ev, c₀.stamp) ∈ g.emitted := by
      refine ht.pending k _ ?_ hev
      rw [World.pending_front k hq (Work.event?_work id c₀.stamp ev)]
      exact List.mem_cons_self
    refine ⟨(ht.rely (rely_takeFront hq)).runSlot _ ev c₀.handlers fun _ tag hslot => ?_, c₀, by simpa using hc₀, hl⟩
    have hne : c₀.handlers ≠ {} := fun h => by simp [h] at hslot
    exact ⟨c₀.stamp, c₀.handlers, rfl, hemitted, hl.installed hne, hslot⟩
  | discard k ev s rest hq hev hc hs =>
    exact (show Isolated id _ from ⟨ht, c₀, hc₀, hl⟩).rely (rely_takeFront hq)
  | closed k s rest hq hc hs =>
    obtain rfl := same hc
    refine ⟨((ht.rely (rely_takeFront hq)).modifyConn _ _).runSlot _ _ _ fun hev => absurd rfl hev, _,
      (World.conn?_runSlot ..).trans (World.conn?_modifyConn_self _ ((World.conn?_takeFront ..).trans hc₀)), ?_⟩
    exact hl.clear rfl rfl rfl (Nat.le_refl _)
  | resend k s rest hq hc hs ho hk =>
    obtain rfl := same hc
    exact ⟨(ht.rely (rely_takeFront hq)).push _ _ _ _ fun hev => absurd rfl hev, c₀, by simpa using hc₀, hl⟩
  | resendLost k s rest hq hc hs ho =>
    obtain rfl := same hc
    exact ⟨(ht.rely (rely_takeFront hq)).modifyConn _ _, _,
      World.conn?_modifyConn_self _ ((World.conn?_takeFront ..).trans hc₀), hl.clear rfl rfl rfl (Nat.le_succ _)⟩

/-- Every step keeps the isolation invariant. -/
theorem step {t u : St} (hs : Sound id t.world) (hi : Isolated id t) (h : Step id x t u) : Isolated id u := by
  obtain ⟨v, hm, hr, hg⟩ := h.move hs
  obtain ⟨w', g'⟩ := u
  simp only at hg
  subst hg
  exact (hi.move hm).rely hr

end Isolated

variable {id : Nat}

theorem Opened.isolated {s : St} (h : Opened id s) : Isolated id s := by
  obtain ⟨c, hc, -, hh⟩ := h.conn
  refine ⟨⟨fun k p hp => ?_, fun ev tag ctx hcb => ?_⟩, c, hc, ⟨fun _ => hh, fun h => absurd hh h, ?_, ?_⟩⟩
  · simp [World.pending, h.quiet k] at hp
  · simp [h.silent] at hcb
  · simp [h.ghost]
  · simp [h.ghost]

/-- Every state reached from an opened connection keeps the isolation invariant. -/
theorem Reach.isolated {s t : St} {x : Exec} (ho : Opened id s) (h : Reach id x s t) :
    Sound id t.world ∧ Isolated id t :=
  Reach.induct (fun t => Sound id t.world ∧ Isolated id t)
    (fun ⟨hs, hi⟩ hst => ⟨by
      obtain ⟨v, hm, hr, -⟩ := hst.move hs
      exact (hs.move hm).rely hr, hi.step hs hst⟩) ⟨ho.sound, ho.isolated⟩ h

/-- In every run from an opened connection, whatever the order of the driver's events, the
    releases, the hand-offs and the holders' installing of callbacks, a callback that ran (the
    closed one apart) belongs to one stamp: it ran on the context that owned the stamp, for an
    event the driver issued under the stamp, from callbacks installed under it. No event was
    issued and no callback installed under a later generation than the connection's current one,
    and a hand-off or a release moves the connection to the next generation: so a stamp names one
    stretch of one lease, and an event never reaches callbacks installed in another lease, even
    when the new holder is the same context. -/
theorem callbacks_within_lease {s t : St} {x : Exec} (ho : Opened id s) (hr : Reach id x s t) :
    (∀ ev tag ctx, (ev, tag, ctx) ∈ t.world.callbacks id → ev ≠ .signal .closed →
      ∃ st h, ctx = some st.owner ∧ (ev, st) ∈ t.ghost.emitted ∧ (st, h) ∈ t.ghost.installed ∧
        ev.slot h = some tag) ∧
    ∃ c, t.world.conn? id = some c ∧ (∀ p ∈ t.ghost.emitted, p.2.epoch ≤ c.epoch) ∧
      ∀ p ∈ t.ghost.installed, p.1.epoch ≤ c.epoch := by
  obtain ⟨-, ht, c, hc, hl⟩ := Reach.isolated ho hr
  exact ⟨ht.callbacks, c, hc, hl.issued, hl.recorded⟩

/-- The holder on context 1 installs a data callback and one chunk is read; the connection is
    released and handed to context 1 again, and a second chunk is read: only the first chunk
    reaches the callback. -/
theorem second_lease_of_same_context_isolated :
    ∃ t, Reach 1 ⟨some 0, some ⟨1⟩⟩ St.lone t ∧
      t.world.callbacks 1 = [(.data (ByteArray.mk #[1]), "read", some ⟨1⟩)] ∧
      (∀ ev tag ctx, (ev, tag, ctx) ∈ t.world.callbacks 1 → ev ≠ .signal .closed →
        ∃ st h, ctx = some st.owner ∧ (ev, st) ∈ t.ghost.emitted ∧ (st, h) ∈ t.ghost.installed ∧
          ev.slot h = some tag) ∧
      ∃ c, t.world.conn? 1 = some c ∧ (∀ p ∈ t.ghost.emitted, p.2.epoch ≤ c.epoch) ∧
        ∀ p ∈ t.ghost.installed, p.1.epoch ≤ c.epoch := by
  have hr : Reach 1 ⟨some 0, some ⟨1⟩⟩ St.lone _ :=
    .step (.step (.step (.step (.step (.step (.refl _) (.start rfl))
      (.install ⟨some 0, some ⟨1⟩⟩ { data := some "read" } rfl rfl rfl))
      (.emit (.data (ByteArray.mk #[1])) (by decide) rfl rfl)) .release) (.repin ⟨1⟩ rfl))
      (.emit (.data (ByteArray.mk #[2])) (by decide) rfl rfl)
  exact ⟨_, hr, rfl, callbacks_within_lease opened_lone hr⟩

end ConnSystem

end Affinity
