import Affinity.Proofs.Connection.Effects
/-!
Writing to a connection, split into the sections that other threads can come between.

A write takes four steps, and another thread may act between any two of them: it checks that
the connection is open and reads its owner, to whom the completion will go; it adds its length
to the queued count, noting whether the count reached the limit; if it did, it makes a drain
due; and it hands the item to the driver or, when the driver has gone, takes its count back and
fails. `World.write` does the four at once: `write_eq_sections` shows that it is their
composition (`World.writeCount`, `World.writeFlag`, `World.writeSend`).

`World.Untouched id w w'`: connection `id` and every pipe are the same in `w'` as in `w`. The
callbacks a driver issues, the completions it dispatches and the close hook that runs when the
connection closes are all such changes (`untouched_emit`, `untouched_runOnOrDrop`,
`untouched_runHook`), so that what the driver does to the write path is read off once, in
`writeView_wrote` and `writeView_stopDriver`.
-/

namespace Affinity

namespace World

open ConnSystem

variable {w w' w'' : World} {id : Nat}

/-! ### The sections of a write -/

/-- The second section of a write: the bytes join the queued count. The answer says whether the
    count reached the limit. -/
def writeCount (w : World) (id len : Nat) : Bool × World :=
  (((w.conn? id).map fun c => decide (c.queued + len ≥ c.queueMax)).getD false,
    w.modifyConn id fun c => { c with queued := c.queued + len })

/-- The third section: a count that reached the limit makes a drain due. -/
def writeFlag (w : World) (id : Nat) (due : Bool) : World :=
  w.modifyConn id fun c => { c with drainPending := c.drainPending || due }

/-- The last section: the item goes to the driver; when no driver takes items any more, the
    count is taken back and the write fails. -/
def writeSend (w : World) (x : Exec) (id : Nat) (bytes : ByteArray) (done : Option (ContextId × String)) :
    Except Error Unit × World :=
  if ((w.conn? id).map (·.driverHeld)).getD false then
    (.ok (), (w.modifyConn id fun c => { c with outbound := c.outbound ++ [.data bytes done] }).wakeSelecting x id)
  else (.error .connectionClosed, w.modifyConn id fun c => { c with queued := c.queued - bytes.size })

theorem modifyConn_modifyConn (i : Nat) (f g : Connection → Connection) :
    (w.modifyConn i f).modifyConn i g = w.modifyConn i (g ∘ f) := by
  simp only [modifyConn]
  congr 1
  ext j hj₁ hj₂
  · simp
  · simp only [Array.getElem_modify]
    split <;> rfl

/-- Updating a connection depends only on what the update does to it. -/
theorem modifyConn_congr {c : Connection} {f g : Connection → Connection} (hc : w.conn? id = some c)
    (h : f c = g c) : w.modifyConn id f = w.modifyConn id g := by
  obtain ⟨hlt, hget⟩ := Array.getElem?_eq_some_iff.mp hc
  simp only [modifyConn]
  congr 1
  ext j hj₁ hj₂
  · simp
  · simp only [Array.getElem_modify]
    split
    · rename_i hj
      subst hj
      rw [hget, h]
    · rfl

/-- A write to an open connection is its count, its flag and its send, one after the other. -/
theorem write_eq_sections {c : Connection} (x : Exec) (bytes : ByteArray) (tag : Option String)
    (hc : w.conn? id = some c) (ho : c.state.isOpen = true) :
    w.write x id bytes tag =
      ((w.writeCount id bytes.size).2.writeFlag id (w.writeCount id bytes.size).1).writeSend x id bytes
        (tag.map (c.owner, ·)) := by
  have hcount : w.writeCount id bytes.size = (decide (c.queued + bytes.size ≥ c.queueMax),
      w.modifyConn id fun c => { c with queued := c.queued + bytes.size }) := by
    simp [writeCount, hc]
  rw [hcount]
  simp only [writeFlag, writeSend, modifyConn_modifyConn, conn?_modifyConn_self _ hc, Option.map_some,
    Option.getD_some, Function.comp_apply]
  simp only [write, hc, ho, Bool.not_true, Bool.false_eq_true, if_false]
  -- the merged updates agree with the write's own update on the connection itself
  cases c.driverHeld
  · simp only [Bool.not_false, Bool.false_eq_true, if_true, if_false]
    exact Prod.ext rfl (modifyConn_congr hc (by simp))
  · simp only [Bool.not_true, Bool.false_eq_true, if_true, if_false]
    exact Prod.ext rfl (congrArg (·.wakeSelecting x id) (modifyConn_congr hc (by rfl)))

/-! ### Changes that leave a connection and the pipes alone -/

@[simp] theorem duplexes_modifyConn (i : Nat) (f : Connection → Connection) :
    (w.modifyConn i f).duplexes = w.duplexes := rfl
@[simp] theorem conn?_modifyDuplex (i : Nat) (f : Net.Duplex → Net.Duplex) :
    (w.modifyDuplex i f).conn? id = w.conn? id := rfl
@[simp] theorem conn?_modifyTask (i : Nat) (f : Task → Task) : (w.modifyTask i f).conn? id = w.conn? id := rfl
@[simp] theorem duplexes_modifyTask (i : Nat) (f : Task → Task) : (w.modifyTask i f).duplexes = w.duplexes := rfl
@[simp] theorem duplexes_modifyWorker (i : Nat) (f : Worker → Worker) :
    (w.modifyWorker i f).duplexes = w.duplexes := rfl

/-- Connection `id` and every pipe are the same in `w'` as in `w`. -/
structure Untouched (id : Nat) (w w' : World) : Prop where
  conn : w'.conn? id = w.conn? id
  duplexes : w'.duplexes = w.duplexes

namespace Untouched

theorem refl (id : Nat) (w : World) : Untouched id w w := ⟨rfl, rfl⟩

theorem trans (h₁ : Untouched id w w') (h₂ : Untouched id w' w'') : Untouched id w w'' :=
  ⟨h₂.conn.trans h₁.conn, h₂.duplexes.trans h₁.duplexes⟩

theorem lt_size (h : Untouched id w w') (hw : id - 1 < w.conns.size) : id - 1 < w'.conns.size := by
  have hs : (w'.conn? id).isSome := by
    rw [h.conn]
    simp [conn?, hw]
  simpa [conn?] using hs

end Untouched

/-- A change that keeps the connections and the pipes. -/
theorem untouched_of_eq (hc : w'.conns = w.conns) (hd : w'.duplexes = w.duplexes) : Untouched id w w' :=
  ⟨by simp [conn?, hc], hd⟩

theorem untouched_modifyPool (i : Nat) (f : Pool → Pool) : Untouched id w (w.modifyPool i f) :=
  untouched_of_eq rfl rfl

theorem untouched_modifyServer (i : Nat) (f : Server → Server) : Untouched id w (w.modifyServer i f) :=
  untouched_of_eq rfl rfl

theorem untouched_modifyConn_of_ne {i : Nat} (f : Connection → Connection) (h : i - 1 ≠ id - 1) :
    Untouched id w (w.modifyConn i f) :=
  ⟨by simp [conn?_modifyConn, h], rfl⟩

theorem untouched_pushConn (c : Connection) (h : id - 1 < w.conns.size) :
    Untouched id w { w with conns := w.conns.push c } :=
  ⟨by simp [conn?, Array.getElem?_push, Nat.ne_of_lt h], rfl⟩

theorem untouched_wake (x : Exec) (t : Nat) : Untouched id w (w.wake x t) := by
  unfold wake
  split
  · exact .refl id w
  · split
    · exact .refl id w
    · split
      · exact untouched_of_eq rfl rfl
      · dsimp only
        split <;> exact untouched_of_eq rfl rfl

theorem untouched_wakeSelecting (x : Exec) (i : Nat) : Untouched id w (w.wakeSelecting x i) := by
  unfold wakeSelecting
  split
  · split
    · exact untouched_wake x _
    · exact .refl id w
  · exact .refl id w

theorem untouched_post {ctx : ContextId} {job : Job} (hp : w.post ctx job = .ok w') : Untouched id w w' := by
  obtain ⟨k, -, rfl⟩ := post_cases hp
  exact untouched_of_eq rfl rfl

theorem untouched_spawnOn {ctx : ContextId} {t : TaskKind} (hp : w.spawnOn ctx t = .ok w') :
    Untouched id w w' := by
  unfold spawnOn submit at hp
  split at hp
  · cases hp
  · split at hp
    · cases hp
      exact untouched_of_eq rfl rfl
    · cases hp

theorem untouched_runSlot (y : Exec) (i : Nat) (ev : Ev) (h : Handlers) : Untouched id w (w.runSlot y i ev h) := by
  unfold runSlot
  split
  · exact untouched_of_eq rfl rfl
  · exact .refl id w

/-- An event a driver issues, other than the closed notice, leaves the connection alone: its
    callback runs, is posted or is lost. -/
theorem untouched_emit (x : Exec) {c : Connection} (hc : w.conn? id = some c) (ev : Ev)
    (hev : ev ≠ .signal .closed) : Untouched id w (w.emit x id (ev.work id ·)) := by
  rcases emit_cases x hc hev with ⟨-, he⟩ | ⟨-, k, -, he⟩ | ⟨-, he⟩ <;> rw [he]
  · exact untouched_runSlot x id ev c.handlers
  · exact untouched_of_eq rfl rfl
  · exact .refl id w

/-- Running or posting a recorded callback leaves the connections alone. -/
theorem untouched_runOnOrDrop (x : Exec) (ctx : ContextId) (n : Note) :
    Untouched id w (w.runOnOrDrop x ctx (.record n)) := by
  unfold runOnOrDrop runOn
  split
  · rename_i w₁ h
    split at h
    · cases h
      exact untouched_of_eq rfl rfl
    · exact untouched_post h
  · exact .refl id w

theorem untouched_report (x : Exec) (pool : Nat) (e : Error) : Untouched id w (w.report x pool e) := by
  unfold report
  split
  · split
    · exact untouched_of_eq rfl rfl
    · exact .refl id w
  · exact .refl id w

theorem untouched_perform_answer (x : Exec) (pool : Nat) (r : Except Error Nat) :
    Untouched id w (w.perform x (.answer pool r)) := by
  cases r with
  | error e => exact untouched_of_eq rfl rfl
  | ok i =>
    simp only [perform]
    split <;> exact untouched_of_eq rfl rfl

theorem untouched_abort_of_ne {i : Nat} (h : i - 1 ≠ id - 1) : Untouched id w (w.abort i).2 := by
  unfold abort
  split
  · exact .refl id w
  · exact untouched_modifyConn_of_ne _ h

/-- Opening connections for waiters, and the failed attempts in between, leave an existing
    connection and every pipe alone: each connection they open or abort is a new one, and no
    pipe exists before a connect task has run. -/
theorem untouched_connect_connectFailed (id fuel : Nat) :
    (∀ (w : World) (x : Exec) (pool : Nat) (ctx : ContextId), id - 1 < w.conns.size →
      Untouched id w (w.connect x pool ctx fuel)) ∧
    (∀ (w : World) (x : Exec) (pool i : Nat) (e : Error) (answer : Bool), id - 1 < w.conns.size →
      i - 1 ≠ id - 1 → Untouched id w (w.connectFailed x pool i e answer fuel)) := by
  induction fuel with
  | zero =>
    exact ⟨fun w _ _ _ _ => by simpa [connect] using Untouched.refl id w,
      fun w _ _ _ _ _ _ _ => by simpa [connectFailed] using Untouched.refl id w⟩
  | succ fuel ih =>
    refine ⟨fun w x pool ctx hw => ?_, fun w x pool i e answer hw hi => ?_⟩
    · rw [connect]
      split
      · exact .refl id w
      · dsimp only
        split
        · rename_i hs
          exact (untouched_pushConn _ hw).trans ((untouched_modifyPool _ _).trans (untouched_spawnOn hs))
        · -- the connection that could not be spawned is the new one, numbered past all others
          refine (untouched_pushConn _ hw).trans ((untouched_modifyPool _ _).trans
            ((untouched_modifyConn_of_ne _ ?_).trans (ih.2 _ x pool _ _ false ?_ ?_))) <;>
            simp [modifyConn, modifyPool] <;> omega
    · rw [connectFailed]
      split
      rename_i w₁ ha
      have h₁ : Untouched id w (w.abort i).2 := untouched_abort_of_ne hi
      rw [ha] at h₁
      split
      · exact h₁
      · split
        rename_i next p _
        dsimp only
        -- the pool forgets the attempt, reports it, and answers the requester if there is one
        have h₂ : Untouched id w ((w₁.modifyPool pool fun _ => p).report x pool e) :=
          h₁.trans ((untouched_modifyPool _ _).trans (untouched_report x pool e))
        have h₃ : Untouched id w (if answer = true then ((w₁.modifyPool pool fun _ => p).report x pool e).perform x
            (.answer pool (.error e)) else (w₁.modifyPool pool fun _ => p).report x pool e) := by
          split
          · exact h₂.trans (untouched_perform_answer x pool _)
          · exact h₂
        split
        · exact h₃.trans (ih.1 _ x pool _ (h₃.lt_size hw))
        · exact h₃


theorem untouched_freeSlot (x : Exec) (pool i : Nat) (h : id - 1 < w.conns.size) :
    Untouched id w (w.freeSlot x pool i) := by
  unfold freeSlot
  split
  · exact .refl id w
  · split
    dsimp only
    split
    · exact (untouched_modifyPool _ _).trans ((untouched_connect_connectFailed id _).1 _ x pool _ h)
    · exact untouched_modifyPool _ _

theorem untouched_runHook (x : Exec) (hook : Option CloseHook) (h : id - 1 < w.conns.size) :
    Untouched id w (w.runHook x id hook) := by
  rcases hook with _ | (p | ⟨s, ctx⟩)
  · exact .refl id w
  · exact untouched_freeSlot x p id h
  · simp only [runHook]
    split
    · rename_i hp
      exact (untouched_modifyServer s _).trans (untouched_post hp)
    · exact untouched_of_eq rfl rfl

end World

@[simp] theorem Net.Pipe.close_close (p : Net.Pipe) : p.close.close = p.close := rfl

namespace WritePath

/-- What the write path sees of a connection: its state, its queue, what its driver is doing,
    the queued count with its limit and the drain flag, whether a driver still takes items, and
    its pipes: their number and the outgoing one. -/
structure View where
  state : ConnectionState
  outbound : List Outbound
  driver : DriverState
  queued : Nat
  queueMax : Nat
  drainPending : Bool
  driverHeld : Bool
  duplex : Option Nat
  pipe : Option Net.Pipe

/-- The view of a connection whose pipes are among `ds`. -/
def View.of (c : Connection) (ds : Array Net.Duplex) : View :=
  ⟨c.state, c.outbound, c.driver, c.queued, c.queueMax, c.drainPending, c.driverHeld, c.duplex,
    c.duplex.bind fun d => ds[d]?.map (·.toPeer)⟩

/-- What stopping the driver leaves: the connection closed with nothing queued or counted, no
    driver taking items, and the outgoing pipe shut. -/
def View.stopped (v : View) : View :=
  { v with state := .closed, queued := if v.state = .closed then v.queued else 0, driverHeld := false,
           outbound := [], pipe := v.pipe.map (·.close) }

end WritePath

open WritePath

namespace World

open ConnSystem

/-- What the write path sees of connection `id`. -/
def writeView (w : World) (id : Nat) : Option View := (w.conn? id).map (View.of · w.duplexes)

variable {w w' : World} {id : Nat} {c : Connection} {v : View}

theorem Untouched.writeView_eq (h : Untouched id w w') : w'.writeView id = w.writeView id := by
  simp [writeView, h.conn, h.duplexes]

theorem writeView_of (hc : w.conn? id = some c) : w.writeView id = some (View.of c w.duplexes) := by
  simp [writeView, hc]

theorem writeView_eq_some : w.writeView id = some v ↔ ∃ c, w.conn? id = some c ∧ View.of c w.duplexes = v := by
  simp [writeView]

/-- An update of the connection that acts on its view through `g`. -/
theorem writeView_modifyConn (f : Connection → Connection) (g : View → View)
    (hf : ∀ c, View.of (f c) w.duplexes = g (View.of c w.duplexes)) :
    (w.modifyConn id f).writeView id = (w.writeView id).map g := by
  cases hc : w.conn? id with
  | none => simp [writeView, conn?_modifyConn, hc]
  | some c => simp [writeView, conn?_modifyConn_self f hc, hc, hf]

/-- An update of pipe `d` that acts on the outgoing pipe through `g`. -/
theorem writeView_modifyDuplex (d : Nat) (f : Net.Duplex → Net.Duplex) (g : Net.Pipe → Net.Pipe)
    (hf : ∀ p, (f p).toPeer = g p.toPeer) :
    (w.modifyDuplex d f).writeView id =
      (w.writeView id).map fun v => if v.duplex = some d then { v with pipe := v.pipe.map g } else v := by
  simp only [writeView, conn?_modifyDuplex, Option.map_map]
  cases w.conn? id with
  | none => rfl
  | some c =>
    simp only [Option.map_some, Function.comp_apply, Option.some.injEq, View.of]
    split
    · rename_i hd
      simp [hd, modifyDuplex, Array.getElem?_modify, Function.comp_def, hf]
    · rename_i hd
      cases hc : c.duplex with
      | none => rfl
      | some e =>
        have he : d ≠ e := fun h => hd (by rw [hc, h])
        simp [modifyDuplex, Array.getElem?_modify, he]

@[simp] theorem writeView_modifyTask (t : Nat) (f : Task → Task) :
    (w.modifyTask t f).writeView id = w.writeView id := rfl

/-- An event other than the closed notice leaves the write path alone. -/
theorem writeView_emit (x : Exec) (ev : Ev) (hev : ev ≠ .signal .closed) :
    (w.emit x id (ev.work id ·)).writeView id = w.writeView id := by
  cases hc : w.conn? id with
  | none => simp [emit, hc]
  | some c => rw [(untouched_emit x hc ev hev).writeView_eq]

/-- Accounting for a written item: the count drops by its length, and a due drain is announced,
    and no longer due, once the count is at most half the limit. -/
theorem writeView_wrote (x : Exec) (len : Nat) :
    (w.wrote x id len).writeView id = (w.writeView id).map fun v => { v with
      queued := v.queued - len, drainPending := v.drainPending && !decide (v.queued - len ≤ v.queueMax / 2) } := by
  unfold wrote
  cases hc : w.conn? id with
  | none => simp [writeView, hc]
  | some c =>
    simp only [writeView_of hc, Option.map_some]
    have h₁ := conn?_modifyConn_self (fun x => { x with queued := c.queued - len }) hc
    split
    · rename_i hdrain
      have h₂ := conn?_modifyConn_self (fun c => { c with drainPending := false }) h₁
      refine ((untouched_emit x h₂ (.signal .drain) (by simp)).writeView_eq).trans ?_
      rw [writeView_of h₂]
      simp only [Bool.and_eq_true, decide_eq_true_eq] at hdrain
      simp [View.of, hdrain.1, hdrain.2]
    · rename_i hdrain
      rw [writeView_of h₁]
      simp only [Bool.and_eq_true, decide_eq_true_eq, not_and] at hdrain
      cases hp : c.drainPending <;> simp_all [View.of]

@[simp] theorem duplexes_runSlot (y : Exec) (i : Nat) (ev : Ev) (h : Handlers) :
    (w.runSlot y i ev h).duplexes = w.duplexes := by
  unfold runSlot
  split <;> rfl

/-- Marking the connection closed empties its count and leaves the rest of its view. -/
theorem writeView_markClosed (x : Exec) (hc : w.conn? id = some c) :
    (w.markClosed x id).writeView id = some { View.of c w.duplexes with state := .closed, queued := 0 } := by
  rcases markClosed_cases x hc with ⟨-, he⟩ | ⟨-, k, -, he⟩ | ⟨-, he⟩ <;> rw [he] <;>
    simp [writeView, conn?_modifyConn, hc, View.of, Connection.clearHandlers]

/-- Finishing the close of a connection not yet closed marks it closed and empties its count. -/
theorem writeView_finishClose (x : Exec) :
    (w.finishClose x id).writeView id =
      (w.writeView id).map fun v => if v.state = .closed then v else { v with state := .closed, queued := 0 } := by
  cases hc : w.conn? id with
  | none => simp [finishClose, writeView, hc]
  | some c =>
    rw [finishClose_eq x hc, writeView_of hc, Option.map_some]
    by_cases hs : c.state = .closed
    · simp [hs, View.of, writeView_of hc]
    · have hlt : id - 1 < (w.markClosed x id).conns.size := by
        rw [size_conns_markClosed x hc]
        exact lt_size_of_conn? hc
      rw [if_neg hs, (untouched_runHook x c.hook hlt).writeView_eq, writeView_markClosed x hc]
      simp [View.of, hs]

/-- Stopping the driver: the failure goes to the exception callback, the outgoing pipe is shut,
    the close finishes, and the queue is dropped. -/
theorem writeView_stopDriver (x : Exec) (t : Nat) (failure : Option Error) :
    (w.stopDriver x t id failure).writeView id = (w.writeView id).map View.stopped := by
  -- the failure is reported first, which leaves the write path alone
  obtain ⟨w₁, hw₁, hstop⟩ : ∃ w₁ : World, w₁.writeView id = w.writeView id ∧
      w.stopDriver x t id failure = w₁.stopDriver x t id none := by
    cases failure with
    | none => exact ⟨w, rfl, rfl⟩
    | some e => exact ⟨w.emit x id ((Ev.error e).work id ·), writeView_emit x (.error e) (by simp), rfl⟩
  rw [hstop, ← hw₁]
  unfold stopDriver
  cases hc : w₁.conn? id with
  | none => simp [hc, finishClose, writeView, conn?_modifyConn]
  | some c =>
    simp only [hc, Option.bind_some]
    cases hd : c.duplex with
    | none =>
      rw [writeView_modifyConn _ (fun v => { v with driverHeld := false, outbound := [] }) (fun c => rfl),
        writeView_modifyTask, writeView_finishClose, writeView_of hc]
      by_cases hs : c.state = .closed <;> simp [View.stopped, View.of, hs, hd]
    | some d =>
      rw [writeView_modifyDuplex d _ Net.Pipe.close (fun p => rfl),
        writeView_modifyConn _ (fun v => { v with driverHeld := false, outbound := [] }) (fun c => rfl),
        writeView_modifyTask, writeView_finishClose, writeView_modifyDuplex d _ Net.Pipe.close (fun p => rfl),
        writeView_of hc]
      by_cases hs : c.state = .closed <;> simp [View.stopped, View.of, hs, hd, Function.comp_def]


/-! ### The write path's steps, read on views -/

/-- Runs a written item's completion on the context that wrote it. -/
def dispatch (w : World) (x : Exec) (done : Option (ContextId × String)) : World :=
  (done.map fun d => w.runOnOrDrop x d.1 (.record (.writeDone d.2))).getD w

theorem writeView_dispatch (x : Exec) (done : Option (ContextId × String)) :
    (w.dispatch x done).writeView id = w.writeView id := by
  cases done with
  | none => rfl
  | some d => exact (untouched_runOnOrDrop x d.1 _).writeView_eq

theorem writeView_wakeSelecting (x : Exec) (i : Nat) : (w.wakeSelecting x i).writeView id = w.writeView id :=
  (untouched_wakeSelecting x i).writeView_eq

theorem writeView_writeCount (len : Nat) :
    (w.writeCount id len).2.writeView id = (w.writeView id).map fun v => { v with queued := v.queued + len } :=
  writeView_modifyConn _ _ fun _ => rfl

theorem writeCount_due (len : Nat) (h : w.writeView id = some v) :
    (w.writeCount id len).1 = decide (v.queued + len ≥ v.queueMax) := by
  obtain ⟨c, hc, rfl⟩ := writeView_eq_some.1 h
  simp [writeCount, hc, View.of]

theorem writeView_writeFlag (due : Bool) :
    (w.writeFlag id due).writeView id = (w.writeView id).map fun v => { v with drainPending := v.drainPending || due } :=
  writeView_modifyConn _ _ fun _ => rfl

/-- A send hands the item over when a driver takes items, and takes the count back otherwise. -/
theorem writeSend_eq (y : Exec) (bytes : ByteArray) (done : Option (ContextId × String)) (h : w.writeView id = some v) :
    (v.driverHeld = true ∧ (w.writeSend y id bytes done).1 = .ok () ∧
      (w.writeSend y id bytes done).2.writeView id = some { v with outbound := v.outbound ++ [.data bytes done] }) ∨
    (v.driverHeld = false ∧ (w.writeSend y id bytes done).1 = .error .connectionClosed ∧
      (w.writeSend y id bytes done).2.writeView id = some { v with queued := v.queued - bytes.size }) := by
  obtain ⟨c, hc, rfl⟩ := writeView_eq_some.1 h
  cases hh : c.driverHeld
  · refine .inr ⟨hh, by simp [writeSend, hc, hh], ?_⟩
    simp only [writeSend, hc, hh, Option.map_some, Option.getD_some, Bool.false_eq_true, if_false]
    rw [writeView_modifyConn _ (fun v => { v with queued := v.queued - bytes.size }) (fun _ => rfl), writeView_of hc]
    rfl
  · refine .inl ⟨hh, by simp [writeSend, hc, hh], ?_⟩
    simp only [writeSend, hc, hh, Option.map_some, Option.getD_some, if_true]
    rw [writeView_wakeSelecting, writeView_modifyConn _ (fun v => { v with outbound := v.outbound ++ [.data bytes done] })
      (fun _ => rfl), writeView_of hc]
    rfl

/-- Closing an open connection marks it closing and queues the close marker for a driver that
    still takes items. -/
theorem writeView_close (y : Exec) (h : w.writeView id = some v) (ho : v.state.isOpen = true) :
    (w.close y id).writeView id = some { v with
      state := .closing, outbound := if v.driverHeld then v.outbound ++ [.close] else v.outbound } := by
  obtain ⟨c, hc, rfl⟩ := writeView_eq_some.1 h
  have ho' : c.state.isOpen = true := ho
  simp only [close, hc, ho', Bool.not_true, Bool.false_eq_true, if_false]
  cases hh : c.driverHeld
  · simp only [Bool.false_eq_true, if_false]
    rw [writeView_modifyConn _ (fun v => { v with state := .closing }) (fun _ => rfl), writeView_of hc]
    simp [View.of, hh]
  · simp only [if_true]
    rw [writeView_wakeSelecting, writeView_modifyConn _ (fun v => { v with outbound := v.outbound ++ [.close] })
      (fun _ => rfl), writeView_modifyConn _ (fun v => { v with state := .closing }) (fun _ => rfl), writeView_of hc]
    simp [View.of, hh]

theorem writeView_setQueueMax (m : Nat) :
    (w.setQueueMax id m).writeView id = (w.writeView id).map fun v => { v with queueMax := Nat.max m 1 } :=
  writeView_modifyConn _ _ fun _ => rfl

end World

end Affinity
