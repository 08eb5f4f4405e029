import Affinity.Proofs.Connection.Effects
/-!
A connection in a running world, under every interleaving of the parties around it.

A connection is touched by several threads at once: its driver task, which issues an event for
each read, drained queue, end of stream or error and finally closes the connection; the workers,
which run the callback items queued for it; the pool, which releases it and hands it to a new
holder; its holders, which install callbacks, write and close; and everything else in the world.
`Step id x` is one atomic step of any of them around connection `id`, whose driver runs as `x`,
each made by the model's own function for it (`World.emit`, `World.finishClose`,
`World.runCommands`, `Connection.repin`, …). What the world does not keep is kept in a `Ghost`:
the events the driver issued with their stamps, the callbacks installed with the stamp current
at the time, whether a holder has the connection, how far the driver has got, and how often the
close hook ran.

The steps follow the code's call structure. The driver starts only after a successful connect
and issues events until it stops; a connect that fails aborts the connection, and then no
driver ever runs. A connection is handed over only after it was released, and callbacks are
installed by code running on the holder's context while it holds the connection.

`Reach id x s t`: `t` is reached from `s` by any number of steps. `Opened id s`: the connection
has just been opened.

`Move id x` is the same steps in normal form: each outcome of each step, written with the few
changes of a world that `Effects` reads the model's functions into. `Step.move` reads every step
as a move followed by a change that the connection does not see (`Rely`), so that an invariant
is proved once per move and once for `Rely`, and never opens the model's functions.

Main statements: `Step.move`, `Reach.induct` for invariants, and `Reach.sound`: in every world
reached the connection exists, each of its waiting items carries one of its events under a stamp
and waits for the stamp's owner, and the registry numbers its live contexts.
-/

namespace Affinity

namespace ConnSystem

/-- How far a connection's driver has got. -/
inductive Drive where
  /-- The connect is under way; no driver runs yet. -/
  | pending
  /-- The driver pumps the stream. -/
  | running
  /-- The driver has stopped and finished the close. -/
  | stopped
  /-- The connect failed and the connection was aborted; no driver will run. -/
  | aborted
  deriving DecidableEq, Repr

/-- What has happened to a connection, beyond what the world keeps. -/
structure Ghost where
  /-- The events the driver issued, oldest first, each with the stamp it was issued under. -/
  emitted : List (Ev × Stamp) := []
  /-- The callbacks installed, oldest first, each with the stamp current when it was installed. -/
  installed : List (Stamp × Handlers) := []
  /-- Whether a holder has the connection: from its opening or a hand-off until its release. -/
  held : Bool := true
  drive : Drive := .pending
  /-- How often the close hook ran. -/
  hookRuns : Nat := 0

/-- A world, and what has happened to the connection in it. -/
structure St where
  world : World
  ghost : Ghost

/-- One atomic step around connection `id`, whose driver runs as `x`. -/
inductive Step (id : Nat) (x : Exec) : St → St → Prop where
  /-- The driver issues an event to the connection's owner; the closed notice is not one of
      them. -/
  | emit {w : World} {g : Ghost} {c : Connection} (ev : Ev) (hev : ev ≠ .signal .closed)
      (hd : g.drive = .running) (hc : w.conn? id = some c) :
      Step id x ⟨w, g⟩ ⟨w.emit x id (ev.work id ·), { g with emitted := g.emitted ++ [(ev, c.stamp)] }⟩
  /-- The connect succeeded: the driver starts and activates a connection still connecting. -/
  | start {w : World} {g : Ghost} (hd : g.drive = .pending) :
      Step id x ⟨w, g⟩ ⟨w.modifyConn id fun c =>
        { c with state := if c.state == .connecting then .active else c.state }, { g with drive := .running }⟩
  /-- The driver stops and finishes the close: unless the connection had closed already, the
      closed event is issued and the close hook runs. A driver that has stopped may finish the
      close again. -/
  | finish {w : World} {g : Ghost} {c : Connection} (hd : g.drive = .running ∨ g.drive = .stopped)
      (hc : w.conn? id = some c) :
      Step id x ⟨w, g⟩ ⟨w.finishClose x id, { g with
        drive := .stopped,
        emitted := if c.state = .closed then g.emitted else g.emitted ++ [(.signal .closed, c.stamp)],
        hookRuns := if c.state ≠ .closed ∧ c.hook.isSome then g.hookRuns + 1 else g.hookRuns }⟩
  /-- The connect failed: the connection is aborted, and the close hook it returns is dropped. -/
  | abort {w : World} {g : Ghost} (hd : g.drive = .pending) :
      Step id x ⟨w, g⟩ ⟨(w.abort id).2, { g with drive := .aborted }⟩
  /-- Code running as `y` asks the connection to close. -/
  | close {w : World} {g : Ghost} (y : Exec) : Step id x ⟨w, g⟩ ⟨w.close y id, g⟩
  /-- Code running as `y` writes to the connection. -/
  | write {w : World} {g : Ghost} (y : Exec) (bytes : ByteArray) (tag : Option String) :
      Step id x ⟨w, g⟩ ⟨(w.write y id bytes tag).2, g⟩
  /-- The pool hands the released connection to a new holder. -/
  | repin {w : World} {g : Ghost} (o : ContextId) (hh : g.held = false) :
      Step id x ⟨w, g⟩ ⟨w.modifyConn id (·.repin o), { g with held := true }⟩
  /-- The connection is released, which drops its callbacks. -/
  | release {w : World} {g : Ghost} :
      Step id x ⟨w, g⟩ ⟨w.modifyConn id (·.clearHandlers), { g with held := false }⟩
  /-- Code running as `y` on the holder's context installs callbacks. -/
  | install {w : World} {g : Ghost} {c : Connection} (y : Exec) (h : Handlers)
      (hc : w.conn? id = some c) (hh : g.held = true) (hy : y.ctx = some c.owner) :
      Step id x ⟨w, g⟩ ⟨w.modifyConn id ({ · with handlers := h }),
        { g with installed := g.installed ++ [(c.stamp, h)] }⟩
  /-- Worker `k` runs the callback item of the connection at the front of its queue. -/
  | deliver {w : World} {g : Ghost} (exec : Exec → Scenario.Op → World → Unit × World) (k : Nat)
      (ctx : ContextId) (wk : Work) (rest : List Command) (hq : w.queue k = .run ctx (.work wk) :: rest)
      (hw : (wk.event? id).isSome) :
      Step id x ⟨w, g⟩ ⟨(World.runCommands exec k 1 w []).2.2, g⟩
  /-- Anything else that happens in the world. -/
  | env {w w' : World} {g : Ghost} (h : Rely id w w') : Step id x ⟨w, g⟩ ⟨w', g⟩

/-- The states reached from `s` by any number of steps. -/
inductive Reach (id : Nat) (x : Exec) : St → St → Prop where
  | refl (s : St) : Reach id x s s
  | step {s t u : St} : Reach id x s t → Step id x t u → Reach id x s u

/-- A connection just opened: connecting, without callbacks, with nothing of it queued or run,
    in a registry whose live contexts are numbered below its next id; nothing has happened to
    it yet. -/
structure Opened (id : Nat) (s : St) : Prop where
  conn : ∃ c, s.world.conn? id = some c ∧ c.state = .connecting ∧ c.handlers = {}
  quiet : ∀ k, s.world.items id k = []
  silent : s.world.callbacks id = []
  numbered : s.world.registry.Numbered
  ghost : s.ghost = {}

/-- The smallest opened state: one worker, no live context, and connection 1 just opened for
    context 1. -/
def St.lone : St :=
  ⟨{ config := {}, registry := { workerCount := 1 }, workers := #[{}],
     conns := #[{ id := 1, endpoint := ⟨"mock", 4000, false⟩, keepAlive := false, owner := ⟨1⟩ }] }, {}⟩

theorem opened_lone : Opened 1 St.lone := by
  refine ⟨⟨_, rfl, rfl, rfl⟩, ?_, rfl, ?_, rfl⟩
  · intro k
    rcases k with _ | k
    · rfl
    · simp [World.items, World.queue, St.lone]
  · intro c e h
    simp [St.lone, Registry.workerOf, Registry.find?] at h

/-- A property that holds at the start and that every step keeps holds along every run. -/
theorem Reach.induct {id : Nat} {x : Exec} (P : St → Prop) (hstep : ∀ {t u : St}, P t → Step id x t u → P u)
    {s t : St} (hs : P s) (h : Reach id x s t) : P t := by
  induction h with
  | refl => exact hs
  | step _ hu ih => exact hstep ih hu

theorem Reach.trans {id : Nat} {x : Exec} {s t u : St} (h₁ : Reach id x s t) (h₂ : Reach id x t u) :
    Reach id x s u := by
  induction h₂ with
  | refl => exact h₁
  | step _ hu ih => exact .step ih hu

/-- What every reached world keeps of the connection: it exists, each of its waiting items
    carries one of its events under a stamp and waits for the stamp's owner, and the registry
    numbers its live contexts below its next id. -/
structure Sound (id : Nat) (w : World) : Prop where
  conn : ∃ c, w.conn? id = some c
  canonical : ∀ k it, it ∈ w.items id k → ∃ (ev : Ev) (s : Stamp), it = (s.owner, ev.work id s)
  numbered : w.registry.Numbered

/-! ### Steps in normal form -/

/-- What one step does to the connection, written with the few changes of `World.runSlot`,
    queuing, `World.takeFront` and connection updates: each constructor is one outcome of one
    step. `Step.move` reads every step as one of these followed by a change the connection does
    not see. -/
inductive Move (id : Nat) (x : Exec) : St → St → Prop where
  /-- Nothing that matters to the connection. -/
  | stay (t : St) : Move id x t t
  /-- The driver is on the owner's context and runs the event's callback at once. -/
  | emitInline {w : World} {g : Ghost} {c : Connection} (ev : Ev) (hev : ev ≠ .signal .closed)
      (hd : g.drive = .running) (hc : w.conn? id = some c) (hx : x.ctx = some c.owner) :
      Move id x ⟨w, g⟩ ⟨w.runSlot x id ev c.handlers, { g with emitted := g.emitted ++ [(ev, c.stamp)] }⟩
  /-- The driver posts the event to the owner's worker. -/
  | emitPosted {w : World} {g : Ghost} {c : Connection} {k : WorkerId} (ev : Ev)
      (hev : ev ≠ .signal .closed) (hd : g.drive = .running) (hc : w.conn? id = some c)
      (hx : x.ctx ≠ some c.owner) (hk : w.registry.workerOf c.owner = some k) :
      Move id x ⟨w, g⟩ ⟨w.modifyWorker k.index (·.push (.run c.owner (.work (ev.work id c.stamp)))),
        { g with emitted := g.emitted ++ [(ev, c.stamp)] }⟩
  /-- The event cannot be posted and is lost. -/
  | emitLost {w : World} {g : Ghost} {c : Connection} (ev : Ev) (hev : ev ≠ .signal .closed)
      (hd : g.drive = .running) (hc : w.conn? id = some c) :
      Move id x ⟨w, g⟩ ⟨w, { g with emitted := g.emitted ++ [(ev, c.stamp)] }⟩
  | start {w : World} {g : Ghost} (hd : g.drive = .pending) :
      Move id x ⟨w, g⟩ ⟨w.modifyConn id fun c =>
        { c with state := if c.state == .connecting then .active else c.state }, { g with drive := .running }⟩
  /-- Finishing a close that has happened does nothing. -/
  | finishAgain {w : World} {g : Ghost} {c : Connection} (hd : g.drive = .running ∨ g.drive = .stopped)
      (hc : w.conn? id = some c) (hs : c.state = .closed) :
      Move id x ⟨w, g⟩ ⟨w, { g with drive := .stopped }⟩
  /-- Finishing the close on the owner's context runs the closed callback at once. -/
  | finishInline {w : World} {g : Ghost} {c : Connection} (hd : g.drive = .running ∨ g.drive = .stopped)
      (hc : w.conn? id = some c) (hs : c.state ≠ .closed) (hx : x.ctx = some c.owner) :
      Move id x ⟨w, g⟩ ⟨(((w.modifyConn id ({ · with state := .closed, queued := 0 })).modifyConn id
          fun c => { c with handlers := {} }).runSlot x id (.signal .closed) c.handlers).modifyConn id
            ({ · with hook := none }),
        { g with
          drive := .stopped, emitted := g.emitted ++ [(.signal .closed, c.stamp)],
          hookRuns := if c.hook.isSome then g.hookRuns + 1 else g.hookRuns }⟩
  /-- Finishing the close posts the closed notice to the owner's worker. -/
  | finishPosted {w : World} {g : Ghost} {c : Connection} {k : WorkerId}
      (hd : g.drive = .running ∨ g.drive = .stopped) (hc : w.conn? id = some c) (hs : c.state ≠ .closed)
      (hx : x.ctx ≠ some c.owner) (hk : w.registry.workerOf c.owner = some k) :
      Move id x ⟨w, g⟩ ⟨((w.modifyConn id ({ · with state := .closed, queued := 0 })).modifyWorker k.index
          (·.push (.run c.owner (.work ((Ev.signal .closed).work id c.stamp))))).modifyConn id
            ({ · with hook := none }),
        { g with
          drive := .stopped, emitted := g.emitted ++ [(.signal .closed, c.stamp)],
          hookRuns := if c.hook.isSome then g.hookRuns + 1 else g.hookRuns }⟩
  /-- Finishing the close cannot post the closed notice and drops the callbacks. -/
  | finishLost {w : World} {g : Ghost} {c : Connection} (hd : g.drive = .running ∨ g.drive = .stopped)
      (hc : w.conn? id = some c) (hs : c.state ≠ .closed) :
      Move id x ⟨w, g⟩ ⟨((w.modifyConn id ({ · with state := .closed, queued := 0 })).modifyConn id
          (·.clearHandlers)).modifyConn id ({ · with hook := none }),
        { g with
          drive := .stopped, emitted := g.emitted ++ [(.signal .closed, c.stamp)],
          hookRuns := if c.hook.isSome then g.hookRuns + 1 else g.hookRuns }⟩
  | abort {w : World} {g : Ghost} (hd : g.drive = .pending) :
      Move id x ⟨w, g⟩ ⟨w.modifyConn id fun c => { c.clearHandlers with state := .closed, hook := none },
        { g with drive := .aborted }⟩
  /-- Closing an open connection. -/
  | close {w : World} {g : Ghost} {c : Connection} (hc : w.conn? id = some c) (ho : c.state.isOpen = true) :
      Move id x ⟨w, g⟩ ⟨w.modifyConn id ({ · with state := .closing }), g⟩
  | repin {w : World} {g : Ghost} (o : ContextId) (hh : g.held = false) :
      Move id x ⟨w, g⟩ ⟨w.modifyConn id (·.repin o), { g with held := true }⟩
  | release {w : World} {g : Ghost} :
      Move id x ⟨w, g⟩ ⟨w.modifyConn id (·.clearHandlers), { g with held := false }⟩
  | install {w : World} {g : Ghost} {c : Connection} (y : Exec) (h : Handlers)
      (hc : w.conn? id = some c) (hh : g.held = true) (hy : y.ctx = some c.owner) :
      Move id x ⟨w, g⟩ ⟨w.modifyConn id ({ · with handlers := h }),
        { g with installed := g.installed ++ [(c.stamp, h)] }⟩
  /-- A worker runs an item of the current stamp: the callback runs. -/
  | deliver {w : World} {g : Ghost} {c : Connection} (k : Nat) (ev : Ev) (s : Stamp) (rest : List Command)
      (hq : w.queue k = .run s.owner (.work (ev.work id s)) :: rest) (hev : ev ≠ .signal .closed)
      (hc : w.conn? id = some c) (hs : c.stamp = s) :
      Move id x ⟨w, g⟩ ⟨(w.takeFront k s.owner rest).runSlot ⟨some k, some s.owner⟩ id ev c.handlers, g⟩
  /-- A worker takes an item of an old stamp, which does nothing. -/
  | discard {w : World} {g : Ghost} {c : Connection} (k : Nat) (ev : Ev) (s : Stamp) (rest : List Command)
      (hq : w.queue k = .run s.owner (.work (ev.work id s)) :: rest) (hev : ev ≠ .signal .closed)
      (hc : w.conn? id = some c) (hs : c.stamp ≠ s) :
      Move id x ⟨w, g⟩ ⟨w.takeFront k s.owner rest, g⟩
  /-- A worker runs the closed notice, of the current stamp or of an old one whose owner is still
      the owner: the closed callback runs and the callbacks are dropped. -/
  | closed {w : World} {g : Ghost} {c : Connection} (k : Nat) (s : Stamp) (rest : List Command)
      (hq : w.queue k = .run s.owner (.work ((Ev.signal .closed).work id s)) :: rest)
      (hc : w.conn? id = some c) (hs : c.stamp = s ∨ s.owner = c.owner) :
      Move id x ⟨w, g⟩ ⟨((w.takeFront k s.owner rest).modifyConn id fun c => { c with handlers := {} }).runSlot
        ⟨some k, some s.owner⟩ id (.signal .closed) c.handlers, g⟩
  /-- A worker takes a closed notice of an old stamp and posts it on to the new owner's worker. -/
  | resend {w : World} {g : Ghost} {c : Connection} {k' : WorkerId} (k : Nat) (s : Stamp) (rest : List Command)
      (hq : w.queue k = .run s.owner (.work ((Ev.signal .closed).work id s)) :: rest)
      (hc : w.conn? id = some c) (hs : c.stamp ≠ s) (ho : s.owner ≠ c.owner)
      (hk : w.registry.workerOf c.owner = some k') :
      Move id x ⟨w, g⟩ ⟨(w.takeFront k s.owner rest).modifyWorker k'.index
        (·.push (.run c.owner (.work ((Ev.signal .closed).work id c.stamp)))), g⟩
  /-- A closed notice of an old stamp that cannot be posted on drops the callbacks. -/
  | resendLost {w : World} {g : Ghost} {c : Connection} (k : Nat) (s : Stamp) (rest : List Command)
      (hq : w.queue k = .run s.owner (.work ((Ev.signal .closed).work id s)) :: rest)
      (hc : w.conn? id = some c) (hs : c.stamp ≠ s) (ho : s.owner ≠ c.owner) :
      Move id x ⟨w, g⟩ ⟨(w.takeFront k s.owner rest).modifyConn id (·.clearHandlers), g⟩

section Sound

variable {id : Nat} {x : Exec} {w : World}

theorem Rely.of_eq {w' : World} (h : w' = w) : Rely id w w' := h ▸ Rely.refl id w

theorem Sound.rely {w' : World} (hs : Sound id w) (h : Rely id w w') : Sound id w' where
  conn := by
    obtain ⟨c, hc⟩ := hs.conn
    obtain ⟨c', hc', -⟩ := h.conn hc
    exact ⟨c', hc'⟩
  canonical k it hit := hs.canonical k it ((h.items k).subset hit)
  numbered := h.numbered hs.numbered

theorem Sound.runSlot (hs : Sound id w) (y : Exec) (ev : Ev) (h : Handlers) :
    Sound id (w.runSlot y id ev h) where
  conn := by simpa using hs.conn
  canonical k it := by simpa using hs.canonical k it
  numbered := by simpa using hs.numbered

theorem Sound.modifyConn (hs : Sound id w) (f : Connection → Connection) : Sound id (w.modifyConn id f) where
  conn := by
    obtain ⟨c, hc⟩ := hs.conn
    exact ⟨f c, World.conn?_modifyConn_self f hc⟩
  canonical := hs.canonical
  numbered := hs.numbered

/-- Queuing an event of the connection for its owner, under its stamp. -/
theorem Sound.push (hs : Sound id w) (k : Nat) (ev : Ev) (c : Connection) :
    Sound id (w.modifyWorker k (·.push (.run c.owner (.work (ev.work id c.stamp))))) where
  conn := hs.conn
  canonical j it hit := by
    rw [World.items_push] at hit
    split at hit
    · rcases List.mem_append.mp hit with hit | hit
      · exact hs.canonical j it hit
      · exact ⟨ev, c.stamp, by simp at hit; exact hit⟩
    · exact hs.canonical j it hit
  numbered := hs.numbered

theorem Sound.takeFront (hs : Sound id w) {k : Nat} {ctx : ContextId} {wk : Work} {rest : List Command}
    (hq : w.queue k = .run ctx (.work wk) :: rest) : Sound id (w.takeFront k ctx rest) where
  conn := hs.conn
  canonical j it hit := hs.canonical j it ((World.items_takeFront_sublist hq j).subset hit)
  numbered := Registry.numbered_bind hs.numbered ctx

theorem Sound.move {t v : St} (hs : Sound id t.world) (h : Move id x t v) : Sound id v.world := by
  cases h with
  | stay => exact hs
  | emitInline ev => exact hs.runSlot x ev _
  | emitPosted ev => exact hs.push _ ev _
  | emitLost => exact hs
  | start => exact hs.modifyConn _
  | finishAgain => exact hs
  | finishInline => exact (((hs.modifyConn _).modifyConn _).runSlot x _ _).modifyConn _
  | finishPosted => exact ((hs.modifyConn _).push _ _ _).modifyConn _
  | finishLost => exact ((hs.modifyConn _).modifyConn _).modifyConn _
  | abort => exact hs.modifyConn _
  | close => exact hs.modifyConn _
  | repin => exact hs.modifyConn _
  | release => exact hs.modifyConn _
  | install => exact hs.modifyConn _
  | deliver k ev s rest hq => exact (hs.takeFront hq).runSlot _ ev _
  | discard k ev s rest hq => exact hs.takeFront hq
  | closed k s rest hq => exact ((hs.takeFront hq).modifyConn _).runSlot _ _ _
  | resend k s rest hq => exact (hs.takeFront hq).push _ _ _
  | resendLost k s rest hq => exact (hs.takeFront hq).modifyConn _

end Sound

/-- Every step is one of the moves, followed by a change the connection does not see. -/
theorem Step.move {id : Nat} {x : Exec} {t u : St} (hs : Sound id t.world) (h : Step id x t u) :
    ∃ v, Move id x t v ∧ Rely id v.world u.world ∧ u.ghost = v.ghost := by
  cases h with
  | emit ev hev hd hc =>
    rcases World.emit_cases x hc hev with ⟨hx, he⟩ | ⟨hx, k, hk, he⟩ | ⟨hx, he⟩
    · exact ⟨_, .emitInline ev hev hd hc hx, Rely.of_eq he, rfl⟩
    · exact ⟨_, .emitPosted ev hev hd hc hx hk, Rely.of_eq he, rfl⟩
    · exact ⟨_, .emitLost ev hev hd hc, Rely.of_eq he, rfl⟩
  | start hd => exact ⟨_, .start hd, .refl _ _, rfl⟩
  | finish hd hc =>
    rcases finish_cases x hc with ⟨hs, he⟩ | ⟨hs, hr⟩
    · exact ⟨_, .finishAgain hd hc hs, Rely.of_eq he, by simp [hs]⟩
    · rcases World.markClosed_cases x hc with ⟨hx, he⟩ | ⟨hx, k, hk, he⟩ | ⟨-, he⟩ <;> rw [he] at hr
      · exact ⟨_, .finishInline hd hc hs hx, hr, by simp [hs]⟩
      · exact ⟨_, .finishPosted hd hc hs hx hk, hr, by simp [hs]⟩
      · exact ⟨_, .finishLost hd hc hs, hr, by simp [hs]⟩
  | @abort w g hd =>
    obtain ⟨c, hc⟩ := hs.conn
    have he : (w.abort id).2 = w.modifyConn id fun c =>
        { c.clearHandlers with state := .closed, hook := none } := by
      simp [World.abort, hc]
    exact ⟨_, .abort hd, Rely.of_eq he, rfl⟩
  | close y =>
    obtain ⟨c, hc⟩ := hs.conn
    rcases close_cases y hc with ⟨-, he⟩ | ⟨ho, hr⟩
    · exact ⟨_, .stay _, Rely.of_eq he, rfl⟩
    · exact ⟨_, .close hc ho, hr, rfl⟩
  | write y bytes tag => exact ⟨_, .stay _, rely_write y id bytes tag, rfl⟩
  | repin o hh => exact ⟨_, .repin o hh, .refl _ _, rfl⟩
  | release => exact ⟨_, .release, .refl _ _, rfl⟩
  | install y h hc hh hy => exact ⟨_, .install y h hc hh hy, .refl _ _, rfl⟩
  | @deliver w g exec k ctx wk rest hq hw =>
    -- the item at the front is canonical: an event under a stamp, for the stamp's owner
    obtain ⟨ev, s, hit⟩ := hs.canonical k (ctx, wk) (by simp [World.items_front hq hw])
    simp only [Prod.mk.injEq] at hit
    obtain ⟨rfl, rfl⟩ := hit
    obtain ⟨c, hc⟩ := hs.conn
    have hf : ev.work id s ≠ .fail := by rcases ev with _ | (_ | _ | _) | _ <;> simp [Ev.work]
    have hc' : (w.takeFront k s.owner rest).conn? id = some c := hc
    rw [World.runCommands_work exec hq hf]
    have hr : Rely id ((w.takeFront k s.owner rest).perform ⟨some k, some s.owner⟩ (ev.work id s))
        (((w.takeFront k s.owner rest).perform ⟨some k, some s.owner⟩ (ev.work id s)).count k
          fun s => { s with executed := s.executed + 1 }) := rely_count k _
    refine ⟨⟨(w.takeFront k s.owner rest).perform ⟨some k, some s.owner⟩ (ev.work id s), g⟩, ?_, hr, rfl⟩
    by_cases hev : ev = .signal .closed
    · subst hev
      rw [World.perform_closed _ s hc']
      by_cases hs' : c.stamp = s
      · rw [if_pos hs', World.closedNow_eq _ hc']
        exact .closed k s rest hq hc (.inl hs')
      · rw [if_neg hs']
        rcases World.sendClosed_cases ⟨some k, some s.owner⟩ hc' with ⟨hy, he⟩ | ⟨hy, k', hk, he⟩ | ⟨hy, he⟩
        · rw [he, World.closedNow_eq _ hc']
          exact .closed k s rest hq hc (.inr (Option.some.inj hy))
        · rw [he]
          have ho : s.owner ≠ c.owner := fun e => hy (congrArg some e)
          rw [World.registry_takeFront, Registry.workerOf_bind] at hk
          exact .resend k s rest hq hc hs' ho hk
        · rw [he]
          exact .resendLost k s rest hq hc hs' fun e => hy (congrArg some e)
    · rw [World.perform_event _ s hc' hev]
      by_cases hs' : c.stamp = s
      · rw [if_pos hs']
        exact .deliver k ev s rest hq hev hc hs'
      · rw [if_neg hs']
        exact .discard k ev s rest hq hev hc hs'
  | env h => exact ⟨_, .stay _, h, rfl⟩

theorem Opened.sound {id : Nat} {s : St} (h : Opened id s) : Sound id s.world where
  conn := by
    obtain ⟨c, hc, -⟩ := h.conn
    exact ⟨c, hc⟩
  canonical k it hit := by simp [h.quiet k] at hit
  numbered := h.numbered

/-- Every world reached from an opened connection is sound. -/
theorem Reach.sound {id : Nat} {x : Exec} {s t : St} (ho : Opened id s) (h : Reach id x s t) :
    Sound id t.world :=
  Reach.induct (fun t => Sound id t.world) (fun hs hst => by
    obtain ⟨v, hm, hr, -⟩ := hst.move hs
    exact (hs.move hm).rely hr) ho.sound h

end ConnSystem

end Affinity
