import Affinity.Proofs.Connection.Frame
/-!
What the model's functions do to one connection, read off once so that the proofs about runs
never open them again.

The functions a connection's steps call are composed of a few changes to a world: a callback
that runs (`World.runSlot`: the callback the connection's callbacks set for an event, noted
under the context it runs on), an item queued on a worker, the front item taken off a queue
(`World.takeFront`), and updates of the connection itself. Each lemma here says which of these a
function makes, case by case:

* `emit_cases`: an event the driver issues runs at once, is posted, or is lost;
* `perform_event`, `perform_closed`: an item runs its callback only under the current stamp; a
  closed notice under an old stamp is sent on to the current owner (`sendClosed_cases`);
* `markClosed_cases` and `finish_cases`: finishing a close marks the connection closed, sends
  the closed notice, and runs the close hook, which leaves the connection alone
  (`rely_runHook`);
* `runCommands_work`: a worker takes the item at the front of its queue and runs it.
-/

namespace Affinity

namespace World

open ConnSystem

variable {id : Nat} {w w' : World}

section View

variable (y : Exec) (n : Note) (i k : Nat) (f : Connection → Connection) (g : Worker → Worker)

@[simp] theorem conn?_note : (w.note y n).conn? id = w.conn? id := rfl
@[simp] theorem items_note : (w.note y n).items id k = w.items id k := rfl
@[simp] theorem registry_note : (w.note y n).registry = w.registry := rfl
@[simp] theorem workers_note : (w.note y n).workers = w.workers := rfl
@[simp] theorem items_modifyConn : (w.modifyConn i f).items id k = w.items id k := rfl
@[simp] theorem callbacks_modifyConn : (w.modifyConn i f).callbacks id = w.callbacks id := rfl
@[simp] theorem registry_modifyConn : (w.modifyConn i f).registry = w.registry := rfl
@[simp] theorem workers_modifyConn : (w.modifyConn i f).workers = w.workers := rfl
@[simp] theorem conn?_modifyWorker : (w.modifyWorker k g).conn? id = w.conn? id := rfl
@[simp] theorem callbacks_modifyWorker : (w.modifyWorker k g).callbacks id = w.callbacks id := rfl
@[simp] theorem registry_modifyWorker : (w.modifyWorker k g).registry = w.registry := rfl
@[simp] theorem conns_modifyWorker : (w.modifyWorker k g).conns = w.conns := rfl

@[simp] theorem size_conns_modifyConn : (w.modifyConn i f).conns.size = w.conns.size := Array.size_modify

theorem conn?_modifyConn_self {c : Connection} (hc : w.conn? id = some c) :
    (w.modifyConn id f).conn? id = some (f c) := by
  simp [conn?_modifyConn, hc]

theorem lt_size_of_conn? {c : Connection} (hc : w.conn? id = some c) : id - 1 < w.conns.size :=
  (Array.getElem?_eq_some_iff.mp hc).1

/-- Queuing a command adds its item, if it is one of the connection's, at the end of worker
    `k`'s items; a worker that does not exist gets nothing. -/
theorem items_push (c : Command) (j : Nat) :
    (w.modifyWorker k (·.push c)).items id j =
      if k = j ∧ j < w.workers.size then w.items id j ++ (c.item? id).toList else w.items id j := by
  rw [items, queue_modifyWorker]
  by_cases hk : k = j
  · subst hk
    by_cases hj : k < w.workers.size
    · cases h : c.item? id <;> simp [hj, h, items, queue, Worker.push, List.filterMap_append]
    · simp [hj, items, queue]
  · simp [hk, items]

end View

/-- Runs the callback that `h` sets for `ev`, if any, as code on `y`. -/
def runSlot (w : World) (y : Exec) (id : Nat) (ev : Ev) (h : Handlers) : World :=
  match ev.slot h with
  | some tag => w.note y (ev.note id tag)
  | none => w

section RunSlot

variable (y : Exec) (ev : Ev) (h : Handlers) (k : Nat)

@[simp] theorem conn?_runSlot : (w.runSlot y id ev h).conn? id = w.conn? id := by
  unfold runSlot; split <;> rfl
@[simp] theorem items_runSlot : (w.runSlot y id ev h).items id k = w.items id k := by
  unfold runSlot; split <;> rfl
@[simp] theorem registry_runSlot : (w.runSlot y id ev h).registry = w.registry := by
  unfold runSlot; split <;> rfl
@[simp] theorem conns_runSlot : (w.runSlot y id ev h).conns = w.conns := by
  unfold runSlot; split <;> rfl
@[simp] theorem workers_runSlot : (w.runSlot y id ev h).workers = w.workers := by
  unfold runSlot; split <;> rfl

theorem callbacks_runSlot :
    (w.runSlot y id ev h).callbacks id = w.callbacks id ++ ((ev.slot h).map (ev, ·, y.ctx)).toList := by
  unfold runSlot
  split <;> simp [callbacks_note, *]

end RunSlot

/-- Worker `k` takes the command at the front of its queue, leaving `rest`, and binds the
    command's context. -/
def takeFront (w : World) (k : Nat) (ctx : ContextId) (rest : List Command) : World :=
  { w.modifyWorker k ({ · with commands := rest }) with registry := w.registry.bind ctx }

section TakeFront

variable {k : Nat} {ctx : ContextId} {wk : Work} {rest : List Command}

@[simp] theorem conn?_takeFront : (w.takeFront k ctx rest).conn? id = w.conn? id := rfl
@[simp] theorem callbacks_takeFront : (w.takeFront k ctx rest).callbacks id = w.callbacks id := rfl
@[simp] theorem registry_takeFront : (w.takeFront k ctx rest).registry = w.registry.bind ctx := rfl
@[simp] theorem size_workers_takeFront : (w.takeFront k ctx rest).workers.size = w.workers.size :=
  Array.size_modify

/-- The callback item at the front of a queue is the first of the worker's items. -/
theorem items_front (hq : w.queue k = .run ctx (.work wk) :: rest) (hw : (wk.event? id).isSome) :
    w.items id k = (ctx, wk) :: rest.filterMap (·.item? id) := by
  simp [items, hq, Command.item?, hw]

theorem lt_size_of_queue {c : Command} {cs : List Command} (hq : w.queue k = c :: cs) :
    k < w.workers.size := by
  rcases Nat.lt_or_ge k w.workers.size with hk | hk
  · exact hk
  · simp [queue, Array.getElem?_eq_none hk] at hq

theorem items_takeFront (hq : w.queue k = .run ctx (.work wk) :: rest) (j : Nat) :
    (w.takeFront k ctx rest).items id j = if j = k then rest.filterMap (·.item? id) else w.items id j := by
  have hk := lt_size_of_queue hq
  show ((w.modifyWorker k ({ · with commands := rest })).queue j).filterMap _ = _
  rw [queue_modifyWorker]
  by_cases hj : j = k
  · subst hj
    simp [Array.getElem?_eq_getElem hk]
  · simp only [Ne.symm hj, if_false, hj]
    rfl

theorem items_takeFront_sublist (hq : w.queue k = .run ctx (.work wk) :: rest) (j : Nat) :
    ((w.takeFront k ctx rest).items id j).Sublist (w.items id j) := by
  rw [items_takeFront hq]
  split
  · rename_i hj
    subst hj
    rw [items, hq, List.filterMap_cons]
    split <;> simp
  · exact .refl _

/-- A worker whose queue starts with a callback binds its context, runs it there and counts it. -/
theorem runCommands_work {ρ : Type} (exec : Exec → Scenario.Op → World → ρ × World)
    (hq : w.queue k = .run ctx (.work wk) :: rest) (hf : wk ≠ .fail) :
    (World.runCommands exec k 1 w []).2.2 =
      ((w.takeFront k ctx rest).perform ⟨some k, some ctx⟩ wk).count k
        fun s => { s with executed := s.executed + 1 } := by
  have hq' : (w.workers[k]?.map (·.commands)).getD [] = .run ctx (.work wk) :: rest := hq
  cases wk with
  | fail => exact absurd rfl hf
  | _ => simp [runCommands, hq', runCommand, runJob, takeFront]

end TakeFront

/-! #### The waiting events -/

section Pending

variable (y : Exec) (n : Note) (i k : Nat) (f : Connection → Connection) (ev : Ev) (h : Handlers)

@[simp] theorem pending_note : (w.note y n).pending id k = w.pending id k := rfl
@[simp] theorem pending_modifyConn : (w.modifyConn i f).pending id k = w.pending id k := rfl
@[simp] theorem pending_runSlot : (w.runSlot y id ev h).pending id k = w.pending id k := by
  simp [pending]
@[simp] theorem allPending_note : (w.note y n).allPending id = w.allPending id := rfl
@[simp] theorem allPending_modifyConn : (w.modifyConn i f).allPending id = w.allPending id := rfl
@[simp] theorem allPending_runSlot : (w.runSlot y id ev h).allPending id = w.allPending id := by
  simp only [allPending, workers_runSlot]
  congr 1
  funext k
  exact pending_runSlot y k ev h

/-- Queuing an item adds its event at the end of worker `k`'s waiting events. -/
theorem pending_push (ctx : ContextId) (wk : Work) (j : Nat) :
    (w.modifyWorker k (·.push (.run ctx (.work wk)))).pending id j =
      if k = j ∧ j < w.workers.size then w.pending id j ++ (wk.event? id).toList else w.pending id j := by
  simp only [pending, items_push]
  split
  · cases h : wk.event? id <;> simp [h, Command.item?, List.filterMap_append]
  · rfl

/-- The event of the item at the front of a queue is the first of the worker's waiting events. -/
theorem pending_front {ctx : ContextId} {wk : Work} {rest : List Command} {p : Ev × Stamp}
    (hq : w.queue k = .run ctx (.work wk) :: rest) (hp : wk.event? id = some p) :
    w.pending id k = p :: (w.takeFront k ctx rest).pending id k := by
  have hw : (wk.event? id).isSome := by rw [hp]; rfl
  rw [pending, items_front hq hw, pending, items_takeFront hq]
  simp [hp]

theorem pending_takeFront_of_ne {ctx : ContextId} {wk : Work} {rest : List Command}
    (hq : w.queue k = .run ctx (.work wk) :: rest) {j : Nat} (hj : j ≠ k) :
    (w.takeFront k ctx rest).pending id j = w.pending id j := by
  simp [pending, items_takeFront hq, hj]

/-- Changing one of the lists a list of lists is made of changes the whole by as much: what the
    list at `k` lost and gained. -/
theorem perm_flatMap_update {α : Type} [DecidableEq α] {f g : Nat → List α} {k : Nat}
    (h : ∀ j ≠ k, g j = f j) : ∀ {l : List Nat}, l.Nodup → k ∈ l →
      (l.flatMap g ++ f k).Perm (l.flatMap f ++ g k)
  | [], _, hk => absurd hk List.not_mem_nil
  | j :: l, hn, hk => by
    rw [List.nodup_cons] at hn
    by_cases hj : j = k
    · subst hj
      have hl : l.flatMap g = l.flatMap f := by
        simp only [List.flatMap_def]
        exact congrArg List.flatten (List.map_congr_left fun i hi => h i fun e => hn.1 (e ▸ hi))
      simp only [List.flatMap_cons, hl, List.perm_iff_count, List.count_append]
      intro a
      omega
    · have hk' : k ∈ l := by simpa [Ne.symm hj] using hk
      simp only [List.flatMap_cons, h j hj, List.append_assoc]
      exact (perm_flatMap_update h hn.2 hk').append_left (f j)

theorem allPending_push {ctx : ContextId} {wk : Work} (hk : k < w.workers.size) :
    ((w.modifyWorker k (·.push (.run ctx (.work wk)))).allPending id).Perm
      (w.allPending id ++ (wk.event? id).toList) := by
  have h := perm_flatMap_update (f := w.pending id) (g := (w.modifyWorker k (·.push (.run ctx (.work wk)))).pending id)
    (k := k) (fun j hj => by simp [pending_push, Ne.symm hj]) (List.nodup_range) (List.mem_range.mpr hk)
  simp only [pending_push, hk, and_self, if_true] at h
  rw [List.perm_iff_count] at h ⊢
  intro a
  have ha := h a
  simp only [allPending, size_workers_modifyWorker, List.count_append] at ha ⊢
  omega

theorem allPending_push_of_le {ctx : ContextId} {wk : Work} (hk : w.workers.size ≤ k) :
    (w.modifyWorker k (·.push (.run ctx (.work wk)))).allPending id = w.allPending id := by
  simp only [allPending, size_workers_modifyWorker]
  congr 1
  funext j
  rw [pending_push, if_neg (by omega)]

theorem allPending_takeFront {ctx : ContextId} {wk : Work} {rest : List Command} {p : Ev × Stamp}
    (hq : w.queue k = .run ctx (.work wk) :: rest) (hp : wk.event? id = some p) :
    (w.allPending id).Perm (p :: (w.takeFront k ctx rest).allPending id) := by
  have h := perm_flatMap_update (f := w.pending id) (g := (w.takeFront k ctx rest).pending id) (k := k)
    (fun j hj => pending_takeFront_of_ne k hq hj) List.nodup_range (List.mem_range.mpr (lt_size_of_queue hq))
  rw [pending_front k hq hp] at h
  rw [List.perm_iff_count] at h ⊢
  intro a
  have ha := h a
  simp only [allPending, size_workers_takeFront, List.count_append, List.count_cons] at ha ⊢
  omega

end Pending

theorem post_cases {ctx : ContextId} {job : Job} (h : w.post ctx job = .ok w') :
    ∃ k, w.registry.workerOf ctx = some k ∧ w' = w.modifyWorker k.index (·.push (.run ctx job)) := by
  unfold post submit at h
  split at h
  · cases h
  · split at h
    · cases h
      exact ⟨_, ‹_›, rfl⟩
    · cases h

/-- An event other than the closed notice runs its callback if its stamp is still current, and
    does nothing otherwise. -/
theorem perform_event (y : Exec) (s : Stamp) {c : Connection} (hc : w.conn? id = some c) {ev : Ev}
    (hev : ev ≠ .signal .closed) :
    w.perform y (ev.work id s) = if c.stamp = s then w.runSlot y id ev c.handlers else w := by
  by_cases hs : c.stamp = s
  · have hst : w.stamped id s = true := by simp [stamped, hc, hs]
    rw [if_pos hs]
    rcases ev with b | (_ | _ | _) | e
    case signal.closed => exact absurd rfl hev
    all_goals
      simp only [Ev.work, perform, hst, if_true, hc, Option.bind_some]
      rfl
  · have hst : w.stamped id s = false := by simp [stamped, hc, hs]
    rw [if_neg hs]
    rcases ev with b | (_ | _ | _) | e
    case signal.closed => exact absurd rfl hev
    all_goals simp [Ev.work, perform, hst]

theorem closedNow_eq (y : Exec) {c : Connection} (hc : w.conn? id = some c) :
    w.closedNow y id =
      (w.modifyConn id fun c => { c with handlers := {} }).runSlot y id (.signal .closed) c.handlers := by
  simp only [closedNow, hc, runSlot, Ev.slot]
  rfl

/-- Sends the closed notice to the connection's current owner, and drops the connection's
    callbacks if it cannot. -/
def sendClosed (w : World) (y : Exec) (id : Nat) : World :=
  let (sent, w) := w.notifyClosed y id
  if sent then w else w.modifyConn id (·.clearHandlers)

/-- A closed notice runs the closed callback if its stamp is still current, and is sent on to
    the connection's current owner otherwise. -/
theorem perform_closed (y : Exec) (s : Stamp) {c : Connection} (hc : w.conn? id = some c) :
    w.perform y ((Ev.signal .closed).work id s) = if c.stamp = s then w.closedNow y id else w.sendClosed y id := by
  by_cases hs : c.stamp = s
  · have hst : w.stamped id s = true := by simp [stamped, hc, hs]
    simp [Ev.work, perform, hst, hs]
  · have hst : w.stamped id s = false := by simp [stamped, hc, hs]
    simp [Ev.work, perform, hst, hs, sendClosed]

/-- The closed notice runs at once when `y` is on the owner's context, is posted to the owner's
    worker otherwise, and when it cannot be posted the callbacks are dropped. -/
theorem sendClosed_cases (y : Exec) {c : Connection} (hc : w.conn? id = some c) :
    (y.ctx = some c.owner ∧ w.sendClosed y id = w.closedNow y id) ∨
    (y.ctx ≠ some c.owner ∧ ∃ k, w.registry.workerOf c.owner = some k ∧
      w.sendClosed y id = w.modifyWorker k.index (·.push (.run c.owner (.work ((Ev.signal .closed).work id c.stamp))))) ∨
    (y.ctx ≠ some c.owner ∧ w.sendClosed y id = w.modifyConn id (·.clearHandlers)) := by
  unfold sendClosed notifyClosed
  simp only [hc]
  by_cases hy : y.ctx = some c.owner
  · exact .inl ⟨hy, by simp [hy, Connection.stamp]⟩
  · have hb : (y.ctx == some c.stamp.owner) = false := by simpa [Connection.stamp] using hy
    simp only [hb, Bool.false_eq_true, if_false]
    cases hp : w.post c.stamp.owner (.work (.connClosed id c.stamp)) with
    | ok w' =>
      obtain ⟨k, hk, rfl⟩ := post_cases hp
      exact .inr (.inl ⟨hy, k, hk, rfl⟩)
    | error e => exact .inr (.inr ⟨hy, rfl⟩)

/-- An event the driver issues runs at once when the driver is on the owner's context, is posted
    to the owner's worker otherwise, and is lost when it cannot be posted. -/
theorem emit_cases (x : Exec) {c : Connection} (hc : w.conn? id = some c) {ev : Ev}
    (hev : ev ≠ .signal .closed) :
    (x.ctx = some c.owner ∧ w.emit x id (ev.work id ·) = w.runSlot x id ev c.handlers) ∨
    (x.ctx ≠ some c.owner ∧ ∃ k, w.registry.workerOf c.owner = some k ∧
      w.emit x id (ev.work id ·) = w.modifyWorker k.index (·.push (.run c.owner (.work (ev.work id c.stamp))))) ∨
    (x.ctx ≠ some c.owner ∧ w.emit x id (ev.work id ·) = w) := by
  simp only [emit, hc, runOnOrDrop, runOn]
  by_cases hx : x.ctx = some c.owner
  · exact .inl ⟨hx, by simp [hx, perform_event x c.stamp hc hev]⟩
  · have hb : (x.ctx == some c.owner) = false := by simpa using hx
    simp only [hb, Bool.false_eq_true, if_false]
    cases hp : w.post c.owner (.work (ev.work id c.stamp)) with
    | ok w' =>
      obtain ⟨k, hk, rfl⟩ := post_cases hp
      exact .inr (.inl ⟨hx, k, hk, rfl⟩)
    | error e => exact .inr (.inr ⟨hx, rfl⟩)

/-- Everything `finishClose` does before it runs the close hook: the connection becomes closed,
    its closed notice goes out, and the hook is taken. -/
def markClosed (w : World) (x : Exec) (id : Nat) : World :=
  ((w.modifyConn id ({ · with state := .closed, queued := 0 })).sendClosed x id).modifyConn id
    ({ · with hook := none })

/-- Marking a connection closed: the closed callback runs at once when `x` is on the owner's
    context, the closed notice is posted to the owner's worker otherwise, and the callbacks are
    dropped when it cannot be posted. -/
theorem markClosed_cases (x : Exec) {c : Connection} (hc : w.conn? id = some c) :
    (x.ctx = some c.owner ∧ w.markClosed x id =
      (((w.modifyConn id ({ · with state := .closed, queued := 0 })).modifyConn id
        fun c => { c with handlers := {} }).runSlot x id (.signal .closed) c.handlers).modifyConn id
          ({ · with hook := none })) ∨
    (x.ctx ≠ some c.owner ∧ ∃ k, w.registry.workerOf c.owner = some k ∧ w.markClosed x id =
      ((w.modifyConn id ({ · with state := .closed, queued := 0 })).modifyWorker k.index
        (·.push (.run c.owner (.work ((Ev.signal .closed).work id c.stamp))))).modifyConn id
          ({ · with hook := none })) ∨
    (x.ctx ≠ some c.owner ∧ w.markClosed x id =
      ((w.modifyConn id ({ · with state := .closed, queued := 0 })).modifyConn id
        (·.clearHandlers)).modifyConn id ({ · with hook := none })) := by
  have h₁ := conn?_modifyConn_self (fun c => { c with state := .closed, queued := 0 }) hc
  rcases sendClosed_cases x h₁ with ⟨hx, he⟩ | ⟨hx, k, hk, he⟩ | ⟨hx, he⟩
  · exact .inl ⟨hx, by rw [markClosed, he, closedNow_eq x h₁]⟩
  · exact .inr (.inl ⟨hx, k, hk, by rw [markClosed, he]; rfl⟩)
  · exact .inr (.inr ⟨hx, by rw [markClosed, he]⟩)

theorem size_conns_markClosed (x : Exec) {c : Connection} (hc : w.conn? id = some c) :
    (w.markClosed x id).conns.size = w.conns.size := by
  rcases markClosed_cases x hc with ⟨-, he⟩ | ⟨-, k, -, he⟩ | ⟨-, he⟩ <;> simp [he]

/-- What a close hook does once the connection has closed. -/
def runHook (w : World) (x : Exec) (id : Nat) : Option CloseHook → World
  | some (.pool p) => w.freeSlot x p id
  | some (.server s ctx) =>
    let w := w.modifyServer s fun v => { v with connections := v.connections.filter (· != id) }
    match w.post ctx (.work (.destroy ctx)) with
    | .ok w => w
    | .error _ => { w with registry := (w.registry.destroy ctx).2 }
  | none => w

theorem finishClose_eq (x : Exec) {c : Connection} (hc : w.conn? id = some c) :
    w.finishClose x id = if c.state = .closed then w else (w.markClosed x id).runHook x id c.hook := by
  unfold finishClose markClosed runHook sendClosed
  -- both sides match on the hook; fixing it lets each match reduce
  rcases hh : c.hook with _ | (_ | _) <;> simp only [hc, hh, beq_iff_eq] <;> rfl

end World

namespace ConnSystem

variable {id : Nat} {w : World}

/-- Taking an item off a queue, without running it, is a change the connection does not see. -/
theorem rely_takeFront {k : Nat} {ctx : ContextId} {wk : Work} {rest : List Command}
    (hq : w.queue k = .run ctx (.work wk) :: rest) : Rely id w (w.takeFront k ctx rest) where
  core := rfl
  items := World.items_takeFront_sublist hq
  callbacks := rfl
  workers := World.size_workers_takeFront
  nextId := Nat.le_refl _
  pinned o k h := .inl (by simpa [Registry.workerOf_bind] using h)
  numbered h := Registry.numbered_bind h ctx

theorem rely_runHook (x : Exec) (hook : Option CloseHook) (h : id - 1 < w.conns.size) :
    Rely id w (w.runHook x id hook) := by
  rcases hook with _ | (p | ⟨s, ctx⟩)
  · exact .refl id w
  · exact rely_freeSlot x p id h
  · simp only [World.runHook]
    split
    · rename_i hp
      exact (rely_modifyServer s _).trans (rely_post hp rfl)
    · exact (rely_modifyServer s _).trans (rely_destroy ctx)

/-- A write touches only the write queue of its connection. -/
theorem rely_write (y : Exec) (i : Nat) (bytes : ByteArray) (tag : Option String) :
    Rely id w (w.write y i bytes tag).2 := by
  unfold World.write
  split
  · exact .refl id w
  · split
    · exact .refl id w
    · split
      · exact rely_modifyConn i fun _ _ => rfl
      · refine (rely_modifyConn i ?_).trans (rely_wakeSelecting y i)
        exact fun _ _ => rfl

/-- Closing moves an open connection to `closing`; the rest of it, queuing the close for the
    driver and waking it, leaves the connection's core alone. -/
theorem close_cases (y : Exec) {c : Connection} (hc : w.conn? id = some c) :
    (c.state.isOpen = false ∧ w.close y id = w) ∨
    (c.state.isOpen = true ∧ Rely id (w.modifyConn id ({ · with state := .closing })) (w.close y id)) := by
  unfold World.close
  simp only [hc]
  cases ho : c.state.isOpen
  · exact .inl ⟨rfl, by simp⟩
  · refine .inr ⟨rfl, ?_⟩
    simp only [Bool.not_true, Bool.false_eq_true, if_false]
    split
    · refine (rely_modifyConn id ?_).trans (rely_wakeSelecting y id)
      exact fun _ _ => rfl
    · exact .refl id _

/-- Finishing a close that has not happened yet marks the connection closed and then runs the
    hook, which leaves the connection's core alone. -/
theorem finish_cases (x : Exec) {c : Connection} (hc : w.conn? id = some c) :
    (c.state = .closed ∧ w.finishClose x id = w) ∨
    (c.state ≠ .closed ∧ Rely id (w.markClosed x id) (w.finishClose x id)) := by
  rw [World.finishClose_eq x hc]
  by_cases hs : c.state = .closed
  · exact .inl ⟨hs, by simp [hs]⟩
  · refine .inr ⟨hs, ?_⟩
    simp only [hs, if_false]
    refine rely_runHook x c.hook ?_
    rw [World.size_conns_markClosed x hc]
    exact World.lt_size_of_conn? hc

end ConnSystem

end Affinity
