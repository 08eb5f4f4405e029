import Affinity.Proofs.Connection.Order
/-!
A connection's lifecycle only moves forward.

The state of a connection moves along connecting, active, closing, closed (`ConnectionState.rank`):
the connect's success activates a connecting connection, a close moves an open one to closing,
and the driver's end or an abort closes it. Nothing else touches the state, so the rank never
goes down, and a connection that is no longer open refuses every write from then on.

The close hook runs when the driver finishes the close, and finishing takes the hook off the
connection, so it runs at most once; an abort takes it off without running it, and no driver
runs after an abort. The closed callback runs at most once, and never after an abort: that is
read off the order invariant of `Order`.

Main statement: `lifecycle_forward`.
-/

namespace Affinity

namespace ConnSystem

/-- The lifecycle invariant of connection `c`, for a rank `r` it has reached. -/
structure LifeAt (r : Nat) (g : Ghost) (c : Connection) : Prop where
  rank : r ≤ c.state.rank
  /-- The hook ran, or is still attached, at most once between them. -/
  hook : g.hookRuns + (if c.hook.isSome then 1 else 0) ≤ 1
  /-- Before the driver starts, and after an abort, the hook has not run. -/
  unrun : g.drive = .pending ∨ g.drive = .aborted → g.hookRuns = 0
  /-- An abort drops the hook. -/
  aborted : g.drive = .aborted → c.hook = none

/-- The lifecycle invariant of a state. -/
def Life (id : Nat) (r : Nat) (t : St) : Prop :=
  ∃ c, t.world.conn? id = some c ∧ LifeAt r t.ghost c

namespace LifeAt

variable {r : Nat} {g g' : Ghost} {c c' : Connection}

/-- A change that keeps the state, the hook and the driver's progress. -/
theorem keep (hl : LifeAt r g c) (hs : c'.state = c.state) (hh : c'.hook = c.hook)
    (hr : g'.hookRuns = g.hookRuns) (hd : g'.drive = g.drive) : LifeAt r g' c' where
  rank := hs ▸ hl.rank
  hook := hr ▸ hh ▸ hl.hook
  unrun h := hr ▸ hl.unrun (hd ▸ h)
  aborted h := hh ▸ hl.aborted (hd ▸ h)

/-- The driver starts and activates a connecting connection. -/
theorem start (hl : LifeAt r g c) :
    LifeAt r { g with drive := .running }
      { c with state := if c.state == .connecting then .active else c.state } where
  rank := by
    have := hl.rank
    cases hc : c.state <;> simp_all [ConnectionState.rank]
  hook := hl.hook
  unrun h := by simp at h
  aborted h := by simp at h

/-- The driver stops, over a connection that is closed already. -/
theorem stop (hl : LifeAt r g c) :
    LifeAt r { g with drive := .stopped } c where
  rank := hl.rank
  hook := hl.hook
  unrun h := by simp at h
  aborted h := by simp at h

/-- The driver finishes the close: the connection is closed and its hook, if any, runs and is
    taken off. -/
theorem finish (hl : LifeAt r g c) (hs : c'.state = .closed) (hh : c'.hook = none)
    (hr : g'.hookRuns = if c.hook.isSome then g.hookRuns + 1 else g.hookRuns) (hd : g'.drive = .stopped) :
    LifeAt r g' c' where
  rank := by
    have := hl.rank
    rw [hs]
    cases hc : c.state <;> simp_all [ConnectionState.rank] <;> omega
  hook := by
    have := hl.hook
    rw [hr, hh]
    split <;> simp_all
  unrun h := by simp [hd] at h
  aborted h := by simp [hd] at h

/-- A connect that fails aborts the connection: it is closed and its hook dropped unrun. -/
theorem abort (hl : LifeAt r g c) (hd : g.drive = .pending) (hs : c'.state = .closed) (hh : c'.hook = none)
    (hr : g'.hookRuns = g.hookRuns) : LifeAt r g' c' where
  rank := by
    have := hl.rank
    rw [hs]
    cases hc : c.state <;> simp_all [ConnectionState.rank] <;> omega
  hook := by simp [hr, hh, hl.unrun (.inl hd)]
  unrun _ := hr ▸ hl.unrun (.inl hd)
  aborted _ := hh

/-- Closing an open connection. -/
theorem close (hl : LifeAt r g c) (ho : c.state.isOpen = true) :
    LifeAt r g { c with state := .closing } where
  rank := Nat.le_trans hl.rank (by cases hc : c.state <;> simp_all [ConnectionState.isOpen, ConnectionState.rank])
  hook := hl.hook
  unrun := hl.unrun
  aborted := hl.aborted

end LifeAt

namespace Life

variable {id : Nat} {x : Exec} {r : Nat}

theorem rely {w w' : World} {g : Ghost} (hl : Life id r ⟨w, g⟩) (h : Rely id w w') : Life id r ⟨w', g⟩ := by
  obtain ⟨c, hc, hl⟩ := hl
  obtain ⟨c', hc', hcore⟩ := h.conn hc
  exact ⟨c', hc', hl.keep (congrArg Core.state hcore) (congrArg Core.hook hcore) rfl rfl⟩

/-- Every move keeps the lifecycle invariant. -/
theorem move {t v : St} (hl : Life id r t) (hm : Move id x t v) : Life id r v := by
  obtain ⟨c₀, hc₀, hl⟩ := hl
  -- the connection a move names is the one of the invariant
  have same : ∀ {c : Connection}, t.world.conn? id = some c → c₀ = c := fun hc => Option.some.inj (hc₀.symm.trans hc)
  cases hm with
  | stay => exact ⟨c₀, hc₀, hl⟩
  | emitInline ev hev hd hc hx => exact ⟨c₀, by simpa using hc₀, hl.keep rfl rfl rfl rfl⟩
  | emitPosted ev hev hd hc hx hk => exact ⟨c₀, by simpa using hc₀, hl.keep rfl rfl rfl rfl⟩
  | emitLost ev hev hd hc => exact ⟨c₀, hc₀, hl.keep rfl rfl rfl rfl⟩
  | start hd => exact ⟨_, World.conn?_modifyConn_self _ hc₀, hl.start⟩
  | finishAgain hd hc hs => exact ⟨c₀, hc₀, hl.stop⟩
  | finishInline hd hc hs hx =>
    obtain rfl := same hc
    have hc₁ := World.conn?_modifyConn_self (fun c : Connection => { c with handlers := {} })
      (World.conn?_modifyConn_self (fun c : Connection => { c with state := .closed, queued := 0 }) hc₀)
    exact ⟨_, World.conn?_modifyConn_self _ ((World.conn?_runSlot ..).trans hc₁), hl.finish rfl rfl rfl rfl⟩
  | finishPosted hd hc hs hx hk =>
    obtain rfl := same hc
    have hc₁ := World.conn?_modifyConn_self (fun c : Connection => { c with state := .closed, queued := 0 }) hc₀
    exact ⟨_, World.conn?_modifyConn_self _ ((World.conn?_modifyWorker ..).trans hc₁), hl.finish rfl rfl rfl rfl⟩
  | finishLost hd hc hs =>
    obtain rfl := same hc
    exact ⟨_, World.conn?_modifyConn_self _ (World.conn?_modifyConn_self _ (World.conn?_modifyConn_self _ hc₀)),
      hl.finish rfl rfl rfl rfl⟩
  | abort hd => exact ⟨_, World.conn?_modifyConn_self _ hc₀, hl.abort hd rfl rfl rfl⟩
  | close hc hopen =>
    obtain rfl := same hc
    exact ⟨_, World.conn?_modifyConn_self _ hc₀, hl.close hopen⟩
  | repin o hh => exact ⟨_, World.conn?_modifyConn_self _ hc₀, hl.keep rfl rfl rfl rfl⟩
  | release => exact ⟨_, World.conn?_modifyConn_self _ hc₀, hl.keep rfl rfl rfl rfl⟩
  | install y h hc hh hy => exact ⟨_, World.conn?_modifyConn_self _ hc₀, hl.keep rfl rfl rfl rfl⟩
  | deliver k ev s rest hq hev hc hs => exact ⟨c₀, by simpa using hc₀, hl⟩
  | discard k ev s rest hq hev hc hs => exact ⟨c₀, by simpa using hc₀, hl⟩
  | closed k s rest hq hc hs =>
    exact ⟨_, (World.conn?_runSlot ..).trans (World.conn?_modifyConn_self _ ((World.conn?_takeFront ..).trans hc₀)),
      hl.keep rfl rfl rfl rfl⟩
  | resend k s rest hq hc hs ho hk => exact ⟨c₀, by simpa using hc₀, hl⟩
  | resendLost k s rest hq hc hs ho =>
    exact ⟨_, World.conn?_modifyConn_self _ ((World.conn?_takeFront ..).trans hc₀), hl.keep rfl rfl rfl rfl⟩

/-- Every step keeps the lifecycle invariant. -/
theorem step {t u : St} (hs : Sound id t.world) (hl : Life id r t) (h : Step id x t u) : Life id r u := by
  obtain ⟨v, hm, hr, hg⟩ := h.move hs
  obtain ⟨w', g'⟩ := u
  simp only at hg
  subst hg
  exact (hl.move hm).rely hr

/-- Along a run from a sound world, the lifecycle invariant is kept. -/
theorem reach {t u : St} (hs : Sound id t.world) (hl : Life id r t) (h : Reach id x t u) :
    Sound id u.world ∧ Life id r u :=
  Reach.induct (fun t => Sound id t.world ∧ Life id r t)
    (fun ⟨hs, hl⟩ hst => ⟨by
      obtain ⟨v, hm, hr, -⟩ := hst.move hs
      exact (hs.move hm).rely hr, hl.step hs hst⟩) ⟨hs, hl⟩ h

end Life

variable {id : Nat}

theorem Opened.life {s : St} (h : Opened id s) : Life id 0 s := by
  obtain ⟨c, hc, -, -⟩ := h.conn
  refine ⟨c, hc, Nat.zero_le _, ?_, fun _ => by simp [h.ghost], fun hd => by simp [h.ghost] at hd⟩
  simp only [h.ghost]
  split <;> simp

/-- In every run from an opened connection, between any two states of it: the connection's
    state has only moved forward; once it is not open it stays so and refuses every write; the
    close hook has run at most once; the closed callback has run at most once; and once the
    connection was aborted the hook never runs and is gone, and the closed callback never runs. -/
theorem lifecycle_forward {s t u : St} {x : Exec} (ho : Opened id s) (h₁ : Reach id x s t) (h₂ : Reach id x t u) :
    ∃ c c', t.world.conn? id = some c ∧ u.world.conn? id = some c' ∧
      c.state.rank ≤ c'.state.rank ∧
      (c.state.isOpen = false → c'.state.isOpen = false ∧
        ∀ y bytes tag, (u.world.write y id bytes tag).1 = .error .connectionClosed) ∧
      u.ghost.hookRuns ≤ 1 ∧
      ((u.world.callbacks id).map (·.1)).count (.signal .closed) ≤ 1 ∧
      (u.ghost.drive = .aborted →
        u.ghost.hookRuns = 0 ∧ c'.hook = none ∧ .signal .closed ∉ (u.world.callbacks id).map (·.1)) := by
  obtain ⟨hs, c, hc, hl⟩ := Life.reach ho.sound ho.life h₁
  -- from `t` on, the rank reached at `t` is kept
  obtain ⟨-, c', hc', hl'⟩ := Life.reach hs ⟨c, hc, { hl with rank := Nat.le_refl _ }⟩ h₂
  obtain ⟨-, c'', hc'', ho'⟩ := Reach.ordered ho (h₁.trans h₂)
  obtain rfl : c' = c'' := Option.some.inj (hc'.symm.trans hc'')
  have hcb := ho'.callbacks_sublist
  refine ⟨c, c', hc, hc', hl'.rank, fun hopen => ?_, ?_, (ho'.last.sublist hcb).count_le, fun hd => ?_⟩
  · -- a rank past the open ones stays past them
    have hclosed : c'.state.isOpen = false := by
      have hpast : ¬ c.state.rank ≤ 1 := fun hle => by
        simp [(ConnectionState.isOpen_iff_rank_le _).mpr hle] at hopen
      cases h : c'.state.isOpen
      · rfl
      · exact absurd (Nat.le_trans hl'.rank ((ConnectionState.isOpen_iff_rank_le _).mp h)) hpast
    exact ⟨hclosed, fun y bytes tag => World.write_closed _ y id bytes tag c' hc' hclosed⟩
  · have := hl'.hook
    omega
  · refine ⟨hl'.unrun (.inr hd), hl'.aborted hd, fun hmem => ?_⟩
    exact ho'.running (by simp [hd]) (hcb.subset hmem)

/-- The driver starts, code on the owner's context closes the connection, and the driver
    finishes the close: the connection goes from closing to closed, and writes fail from the
    close on. -/
theorem closing_then_closed_refuses_writes :
    ∃ t u, Reach 1 ⟨some 0, some ⟨1⟩⟩ St.lone t ∧ Reach 1 ⟨some 0, some ⟨1⟩⟩ t u ∧
      (t.world.conn? 1).map (·.state) = some .closing ∧ (u.world.conn? 1).map (·.state) = some .closed ∧
      ∃ c c', t.world.conn? 1 = some c ∧ u.world.conn? 1 = some c' ∧
        c.state.rank ≤ c'.state.rank ∧
        (c.state.isOpen = false → c'.state.isOpen = false ∧
          ∀ y bytes tag, (u.world.write y 1 bytes tag).1 = .error .connectionClosed) ∧
        u.ghost.hookRuns ≤ 1 ∧
        ((u.world.callbacks 1).map (·.1)).count (.signal .closed) ≤ 1 ∧
        (u.ghost.drive = .aborted →
          u.ghost.hookRuns = 0 ∧ c'.hook = none ∧ .signal .closed ∉ (u.world.callbacks 1).map (·.1)) := by
  have h₁ : Reach 1 ⟨some 0, some ⟨1⟩⟩ St.lone _ :=
    .step (.step (.refl _) (.start rfl)) (.close ⟨some 0, some ⟨1⟩⟩)
  exact ⟨_, _, h₁, .step (.refl _) (.finish (.inl rfl) rfl), rfl, rfl,
    lifecycle_forward opened_lone h₁ (.step (.refl _) (.finish (.inl rfl) rfl))⟩

end ConnSystem

end Affinity
