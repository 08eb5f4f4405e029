import Mathlib
import Affinity.Machine.Turn
/-!
One connection seen from the rest of a running world.

What the callbacks and the lifecycle of connection `id` depend on is a small part of a `World`:

* the connection's stamp, callbacks, state and close hook (`ConnSystem.Core`);
* the callback items for it that wait in worker queues (`World.items`): each a `run` command
  whose work is an event of the connection (`Work.event?`);
* the callbacks of it that have run (`World.callbacks`), read off the notes;
* which worker each context is pinned to.

`Rely id w w'` says that a change of the world leaves all of that alone: it may drop waiting
items but adds none, records no callback of the connection, and never moves a live context to
another worker or brings back one that is gone. It is what the rest of a running system may do
while the connection lives, and it composes (`Rely.trans`).

Main statements: the frame lemmas for the operations that the connection's own steps make on
the rest of the world, among them `rely_post`, `rely_note`, `rely_freeSlot` (a pool connection
that closed frees its slot, which may open connections for waiters) and `rely_destroy`.
-/

namespace Affinity

namespace ConnSystem

/-- What a connection callback is called for: bytes read, a signal without payload, or an
    error. -/
inductive Ev where
  | data (bytes : ByteArray)
  | signal (kind : Signal)
  | error (err : Error)
  deriving DecidableEq

namespace Ev

/-- The callback an event runs, among a connection's callbacks. -/
def slot : Ev → Handlers → Option String
  | .data _, h => h.data
  | .signal .drain, h => h.drain
  | .signal .finish, h => h.finish
  | .signal .closed, h => h.closed
  | .error _, h => h.exception

/-- The item that carries an event of connection `id` issued under stamp `s`; the closed event
    travels as the closed notice. -/
def work (id : Nat) (s : Stamp) : Ev → Work
  | .data b => .connData id s b
  | .signal .closed => .connClosed id s
  | .signal k => .connSignal id s k
  | .error e => .connError id s e

/-- The note a callback writes when it runs for an event of connection `id`. -/
def note (id : Nat) (tag : String) : Ev → Note
  | .data b => .data id tag b
  | .signal k => .signal k id tag
  | .error e => .exception id tag e

@[simp] theorem slot_empty (ev : Ev) : ev.slot {} = none := by
  rcases ev with _ | (_ | _ | _) | _ <;> rfl

end Ev

/-- What of a connection its callbacks and its lifecycle depend on. -/
structure Core where
  stamp : Stamp
  handlers : Handlers
  state : ConnectionState
  hook : Option CloseHook
  deriving DecidableEq

end ConnSystem

open ConnSystem

/-- The stamp, callbacks, state and close hook of a connection. -/
def Connection.core (c : Connection) : Core := ⟨c.stamp, c.handlers, c.state, c.hook⟩

namespace Work

/-- The event and stamp of a callback item of connection `id`. -/
def event? (id : Nat) : Work → Option (Ev × Stamp)
  | .connData i s b => if i = id then some (.data b, s) else none
  | .connSignal i s k => if i = id then some (.signal k, s) else none
  | .connError i s e => if i = id then some (.error e, s) else none
  | .connClosed i s => if i = id then some (.signal .closed, s) else none
  | _ => none

@[simp] theorem event?_work (id : Nat) (s : Stamp) (ev : Ev) : (ev.work id s).event? id = some (ev, s) := by
  rcases ev with _ | (_ | _ | _) | _ <;> simp [Ev.work, event?]

end Work

namespace Command

/-- A callback item of connection `id` waiting as a command: the context it is to run on, and
    the item. -/
def item? (id : Nat) : Command → Option (ContextId × Work)
  | .run ctx (.work wk) => if (wk.event? id).isSome then some (ctx, wk) else none
  | _ => none

@[simp] theorem item?_work (id : Nat) (ctx : ContextId) (s : Stamp) (ev : Ev) :
    (Command.run ctx (.work (ev.work id s))).item? id = some (ctx, ev.work id s) := by
  simp [item?]

end Command

namespace Note

/-- A callback of connection `id` that ran: the event it was called for and its tag. -/
def callback? (id : Nat) : Note → Option (Ev × String)
  | .data i tag b => if i = id then some (.data b, tag) else none
  | .signal k i tag => if i = id then some (.signal k, tag) else none
  | .exception i tag e => if i = id then some (.error e, tag) else none
  | _ => none

@[simp] theorem callback?_note (id : Nat) (tag : String) (ev : Ev) :
    (ev.note id tag).callback? id = some (ev, tag) := by
  cases ev <;> simp [Ev.note, callback?]

end Note

/-- Every live context is numbered below the next id the registry hands out. -/
def Registry.Numbered (r : Registry) : Prop := ∀ c k, r.workerOf c = some k → c.val < r.nextId

namespace World

/-- The commands waiting on worker `k`, oldest first. -/
def queue (w : World) (k : Nat) : List Command := (w.workers[k]?.map (·.commands)).getD []

/-- The callback items of connection `id` waiting on worker `k`, oldest first. -/
def items (w : World) (id k : Nat) : List (ContextId × Work) := (w.queue k).filterMap (·.item? id)

/-- The events of connection `id` waiting on worker `k`, each with the stamp it was issued
    under, oldest first. -/
def pending (w : World) (id k : Nat) : List (Ev × Stamp) := (w.items id k).filterMap (·.2.event? id)

/-- The events of connection `id` waiting on any worker, worker by worker. -/
def allPending (w : World) (id : Nat) : List (Ev × Stamp) :=
  (List.range w.workers.size).flatMap (w.pending id)

/-- The callbacks of connection `id` that have run, oldest first: the event, the callback's tag
    and the context it ran on. -/
def callbacks (w : World) (id : Nat) : List (Ev × String × Option ContextId) :=
  w.notes.toList.filterMap fun e => (e.note.callback? id).map fun p => (p.1, p.2, e.ctx)

end World

namespace Registry

theorem workerOf_bind (r : Registry) (c o : ContextId) : (r.bind c).workerOf o = r.workerOf o := by
  -- binding changes only the `bound` flag of an entry, never its id or worker
  have hkey : ((·.1 == o) ∘ fun e : ContextId × ContextEntry =>
      if e.1 == c then (e.1, { e.2 with bound := true }) else e) = (·.1 == o) := by
    funext e
    by_cases h : e.1 = c <;> simp [h]
  simp only [workerOf, find?, bind, List.find?_map, hkey, Option.map_map]
  congr 1
  funext e
  by_cases h : e.1 = c <;> simp [h]

theorem workerOf_destroy (r : Registry) (c o : ContextId) :
    (r.destroy c).2.workerOf o = if o = c then none else r.workerOf o := by
  simp only [workerOf, find?, destroy, List.find?_filter]
  split
  · rename_i h
    subst h
    simp
  · rename_i h
    have : (fun a : ContextId × ContextEntry => decide ((a.1 != c) = true ∧ (a.1 == o) = true)) =
        (·.1 == o) := by
      funext a
      by_cases ha : a.1 = o
      · simp [ha, h]
      · simp [ha]
    rw [this]

@[simp] theorem nextId_bind (r : Registry) (c : ContextId) : (r.bind c).nextId = r.nextId := rfl

theorem numbered_bind {r : Registry} (h : r.Numbered) (c : ContextId) : (r.bind c).Numbered :=
  fun o k hk => h o k (r.workerOf_bind c o ▸ hk)

theorem numbered_destroy {r : Registry} (h : r.Numbered) (c : ContextId) : (r.destroy c).2.Numbered := by
  intro o k hk
  rw [workerOf_destroy] at hk
  split at hk
  · cases hk
  · exact h o k hk

end Registry

namespace World

variable (w : World)

theorem conn?_modifyConn (i id : Nat) (f : Connection → Connection) :
    (w.modifyConn i f).conn? id = if i - 1 = id - 1 then (w.conn? id).map f else w.conn? id := by
  simp [conn?, modifyConn, Array.getElem?_modify]

theorem queue_modifyWorker (k j : Nat) (f : Worker → Worker) :
    (w.modifyWorker k f).queue j =
      if k = j then (w.workers[j]?.map fun v => (f v).commands).getD [] else w.queue j := by
  simp only [queue, modifyWorker, Array.getElem?_modify]
  split <;> simp [Option.map_map, Function.comp_def]

@[simp] theorem size_workers_modifyWorker (k : Nat) (f : Worker → Worker) :
    (w.modifyWorker k f).workers.size = w.workers.size := Array.size_modify

theorem callbacks_note (x : Exec) (n : Note) (id : Nat) :
    (w.note x n).callbacks id =
      w.callbacks id ++ ((n.callback? id).map fun p => (p.1, p.2, x.ctx)).toList := by
  simp only [callbacks, note, Array.toList_push, List.filterMap_append]
  cases h : n.callback? id <;> simp [h]

end World

namespace ConnSystem

/-- What the rest of a running world may do while connection `id` lives: leave its stamp,
    callbacks, state and close hook alone, drop some of its waiting callback items but add none,
    record none of its callbacks, keep the number of workers, and keep every live context on
    its worker, handing out new contexts only above the registry's next id. -/
structure Rely (id : Nat) (w w' : World) : Prop where
  core : (w'.conn? id).map Connection.core = (w.conn? id).map Connection.core
  items : ∀ k, (w'.items id k).Sublist (w.items id k)
  callbacks : w'.callbacks id = w.callbacks id
  workers : w'.workers.size = w.workers.size
  nextId : w.registry.nextId ≤ w'.registry.nextId
  pinned : ∀ o k, w'.registry.workerOf o = some k →
    w.registry.workerOf o = some k ∨ w.registry.nextId ≤ o.val
  numbered : w.registry.Numbered → w'.registry.Numbered

namespace Rely

variable {id : Nat} {w₁ w₂ w₃ : World}

theorem refl (id : Nat) (w : World) : Rely id w w :=
  ⟨rfl, fun _ => .refl _, rfl, rfl, Nat.le_refl _, fun _ _ h => .inl h, fun h => h⟩

theorem trans (h₁ : Rely id w₁ w₂) (h₂ : Rely id w₂ w₃) : Rely id w₁ w₃ where
  core := h₂.core.trans h₁.core
  items k := (h₂.items k).trans (h₁.items k)
  callbacks := h₂.callbacks.trans h₁.callbacks
  workers := h₂.workers.trans h₁.workers
  nextId := Nat.le_trans h₁.nextId h₂.nextId
  pinned o k h := by
    rcases h₂.pinned o k h with h | h
    · exact h₁.pinned o k h
    · exact .inr (Nat.le_trans h₁.nextId h)
  numbered h := h₂.numbered (h₁.numbered h)

/-- The connection is still there after the rest of the world moved, with the same core. -/
theorem conn (h : Rely id w₁ w₂) {c : Connection} (hc : w₁.conn? id = some c) :
    ∃ c', w₂.conn? id = some c' ∧ c'.core = c.core := by
  have hcore := h.core
  rw [hc] at hcore
  cases hc' : w₂.conn? id with
  | none => simp [hc'] at hcore
  | some c' =>
    simp only [hc', Option.map_some, Option.some.injEq] at hcore
    exact ⟨c', rfl, hcore⟩

theorem pending (h : Rely id w₁ w₂) (k : Nat) : (w₂.pending id k).Sublist (w₁.pending id k) :=
  (h.items k).filterMap _

theorem allPending (h : Rely id w₁ w₂) : (w₂.allPending id).Sublist (w₁.allPending id) := by
  unfold World.allPending
  rw [h.workers]
  induction List.range w₁.workers.size with
  | nil => exact .refl _
  | cons k ks ih =>
    simp only [List.flatMap_cons]
    exact (h.pending k).append ih

end Rely

section Frame

variable {id : Nat} {w w' : World}

/-- A change that keeps the connections, the workers, the notes and the registry. -/
theorem rely_of_eq (hc : w'.conns = w.conns) (hw : w'.workers = w.workers) (hn : w'.notes = w.notes)
    (hr : w'.registry = w.registry) : Rely id w w' where
  core := by simp [World.conn?, hc]
  items k := by simp [World.items, World.queue, hw]
  callbacks := by simp [World.callbacks, hn]
  workers := by rw [hw]
  nextId := Nat.le_of_eq (by rw [hr])
  pinned o k h := .inl (hr ▸ h)
  numbered h := hr ▸ h

theorem rely_modifyTask (t : Nat) (f : Task → Task) : Rely id w (w.modifyTask t f) :=
  rely_of_eq rfl rfl rfl rfl

theorem rely_modifyPool (i : Nat) (f : Pool → Pool) : Rely id w (w.modifyPool i f) :=
  rely_of_eq rfl rfl rfl rfl

theorem rely_modifyServer (i : Nat) (f : Server → Server) : Rely id w (w.modifyServer i f) :=
  rely_of_eq rfl rfl rfl rfl

/-- Updating a connection: another one, or this one without touching what its callbacks and
    lifecycle depend on. -/
theorem rely_modifyConn (i : Nat) {f : Connection → Connection}
    (hf : i - 1 = id - 1 → ∀ c, (f c).core = c.core) : Rely id w (w.modifyConn i f) where
  core := by
    rw [World.conn?_modifyConn]
    split
    · rename_i h
      simp only [Option.map_map]
      exact congrArg (Option.map · (w.conn? id)) (funext (hf h))
    · rfl
  items _ := .refl _
  callbacks := rfl
  workers := rfl
  nextId := Nat.le_refl _
  pinned _ _ h := .inl h
  numbered h := h

/-- Updating a worker in a way that adds no callback item of the connection to its queue. -/
theorem rely_modifyWorker (k : Nat) {f : Worker → Worker}
    (hf : ∀ v, ((f v).commands.filterMap (·.item? id)).Sublist (v.commands.filterMap (·.item? id))) :
    Rely id w (w.modifyWorker k f) where
  core := rfl
  items j := by
    simp only [World.items, World.queue_modifyWorker]
    split
    · simp only [World.queue]
      cases w.workers[j]? with
      | none => exact .refl _
      | some v => exact hf v
    · exact .refl _
  callbacks := rfl
  workers := World.size_workers_modifyWorker w k f
  nextId := Nat.le_refl _
  pinned _ _ h := .inl h
  numbered h := h

theorem rely_modifyWorker_of_commands (k : Nat) {f : Worker → Worker} (hf : ∀ v, (f v).commands = v.commands) :
    Rely id w (w.modifyWorker k f) :=
  rely_modifyWorker k fun v => hf v ▸ .refl _

/-- Queuing a command that is no callback item of the connection. -/
theorem rely_push (k : Nat) {c : Command} (hc : c.item? id = none) : Rely id w (w.modifyWorker k (·.push c)) :=
  rely_modifyWorker k fun v => by simp [Worker.push, List.filterMap_append, hc]

/-- Writing a note that is no callback of the connection. -/
theorem rely_note (x : Exec) {n : Note} (hn : n.callback? id = none) : Rely id w (w.note x n) where
  core := rfl
  items _ := .refl _
  callbacks := by simp [World.callbacks_note, hn]
  workers := rfl
  nextId := Nat.le_refl _
  pinned _ _ h := .inl h
  numbered h := h

theorem rely_count (k : Nat) (f : WorkerStats → WorkerStats) : Rely id w (w.count k f) := by
  refine rely_modifyWorker_of_commands k ?_
  exact fun _ => rfl

/-- Posting a job that is no callback item of the connection. -/
theorem rely_post {ctx : ContextId} {job : Job} (hp : w.post ctx job = .ok w')
    (hj : (Command.run ctx job).item? id = none) : Rely id w w' := by
  unfold World.post World.submit at hp
  split at hp
  · cases hp
  · split at hp
    · cases hp
      exact rely_push _ hj
    · cases hp

theorem rely_spawnOn {ctx : ContextId} {t : TaskKind} (hp : w.spawnOn ctx t = .ok w') : Rely id w w' := by
  unfold World.spawnOn World.submit at hp
  split at hp
  · cases hp
  · split at hp
    · cases hp
      exact rely_push _ rfl
    · cases hp

theorem rely_wake (x : Exec) (t : Nat) : Rely id w (w.wake x t) := by
  unfold World.wake
  split
  · exact .refl id w
  · split
    · exact .refl id w
    · split
      · exact rely_modifyTask t _
      · dsimp only
        split <;>
        · refine (rely_modifyTask t _).trans (rely_modifyWorker_of_commands _ ?_)
          exact fun _ => rfl

theorem rely_wakeSelecting (x : Exec) (i : Nat) : Rely id w (w.wakeSelecting x i) := by
  unfold World.wakeSelecting
  split
  · split
    · exact rely_wake x _
    · exact .refl id w
  · exact .refl id w

/-- A change of the registry alone that keeps every live context where it was and the next id. -/
theorem rely_registry {r : Registry} (hn : r.nextId = w.registry.nextId)
    (hk : ∀ o k, r.workerOf o = some k → w.registry.workerOf o = some k)
    (hnum : w.registry.Numbered → r.Numbered) : Rely id w { w with registry := r } where
  core := rfl
  items _ := .refl _
  callbacks := rfl
  workers := rfl
  nextId := hn ▸ Nat.le_refl _
  pinned o k h := .inl (hk o k h)
  numbered := hnum

theorem rely_bind (c : ContextId) : Rely id w { w with registry := w.registry.bind c } :=
  rely_registry rfl (fun o _ h => w.registry.workerOf_bind c o ▸ h) (Registry.numbered_bind · c)

theorem rely_destroy (c : ContextId) : Rely id w { w with registry := (w.registry.destroy c).2 } := by
  refine rely_registry rfl (fun o _ h => ?_) (Registry.numbered_destroy · c)
  rw [Registry.workerOf_destroy] at h
  split at h
  · cases h
  · exact h

/-- Adding a connection after all the others. -/
theorem rely_pushConn (c : Connection) (h : id - 1 < w.conns.size) :
    Rely id w { w with conns := w.conns.push c } := by
  refine ⟨?_, fun _ => .refl _, rfl, rfl, Nat.le_refl _, fun _ _ h => .inl h, fun h => h⟩
  simp [World.conn?, Array.getElem?_push, Nat.ne_of_lt h]

theorem rely_abort_of_ne {i : Nat} (h : i - 1 ≠ id - 1) : Rely id w (w.abort i).2 := by
  unfold World.abort
  split
  · exact .refl id w
  · exact rely_modifyConn i fun h' => absurd h' h

theorem rely_report (x : Exec) (pool : Nat) (e : Error) : Rely id w (w.report x pool e) := by
  unfold World.report
  split
  · split
    · exact rely_note x rfl
    · exact .refl id w
  · exact .refl id w

theorem rely_perform_answer (x : Exec) (pool : Nat) (r : Except Error Nat) :
    Rely id w (w.perform x (.answer pool r)) := by
  cases r with
  | error e => exact rely_note x rfl
  | ok i =>
    simp only [World.perform]
    split
    · exact rely_note x rfl
    · exact (rely_note x rfl).trans (rely_of_eq rfl rfl rfl rfl)

theorem conns_report (x : Exec) (pool : Nat) (e : Error) : (w.report x pool e).conns = w.conns := by
  unfold World.report
  split
  · split <;> rfl
  · rfl

theorem conns_perform_answer (x : Exec) (pool : Nat) (r : Except Error Nat) :
    (w.perform x (.answer pool r)).conns = w.conns := by
  cases r with
  | error e => rfl
  | ok i =>
    simp only [World.perform]
    split <;> rfl

/-- Opening connections for waiters, and the failed attempts in between, leave an existing
    connection alone: every connection they make or abort is a new one. -/
theorem rely_connect_connectFailed (id fuel : Nat) :
    (∀ (w : World) (x : Exec) (pool : Nat) (ctx : ContextId), id - 1 < w.conns.size →
      Rely id w (w.connect x pool ctx fuel)) ∧
    (∀ (w : World) (x : Exec) (pool i : Nat) (e : Error) (answer : Bool), id - 1 < w.conns.size →
      i - 1 ≠ id - 1 → Rely id w (w.connectFailed x pool i e answer fuel)) := by
  induction fuel with
  | zero =>
    exact ⟨fun w _ _ _ _ => by simpa [World.connect] using Rely.refl id w,
      fun w _ _ _ _ _ _ _ => by simpa [World.connectFailed] using Rely.refl id w⟩
  | succ fuel ih =>
    refine ⟨fun w x pool ctx hw => ?_, fun w x pool i e answer hw hi => ?_⟩
    · rw [World.connect]
      split
      · exact .refl id w
      · dsimp only
        split
        · rename_i hs
          exact (rely_pushConn _ hw).trans ((rely_modifyPool _ _).trans (rely_spawnOn hs))
        · -- the connection that could not be spawned is the new one, numbered past all others
          refine (rely_pushConn _ hw).trans ((rely_modifyPool _ _).trans
            ((rely_modifyConn _ fun h => absurd h ?_).trans (ih.2 _ x pool _ _ false ?_ ?_))) <;>
            simp [World.modifyConn, World.modifyPool] <;> omega
    · rw [World.connectFailed]
      split
      rename_i w₁ ha
      have h₁ : Rely id w (w.abort i).2 := rely_abort_of_ne hi
      rw [ha] at h₁
      have hs₁ : w₁.conns.size = w.conns.size := by
        have : (w.abort i).2.conns.size = w.conns.size := by
          unfold World.abort; split <;> simp [World.modifyConn]
        rwa [ha] at this
      split
      · exact h₁
      · split
        rename_i next p _
        dsimp only
        -- the pool forgets the attempt, reports it, and answers the requester if there is one
        have h₂ : Rely id w ((w₁.modifyPool pool fun _ => p).report x pool e) :=
          h₁.trans ((rely_modifyPool _ _).trans (rely_report x pool e))
        have hs₂ : ((w₁.modifyPool pool fun _ => p).report x pool e).conns.size = w.conns.size := by
          rw [conns_report]; exact hs₁
        have h₃ : Rely id w (if answer = true then ((w₁.modifyPool pool fun _ => p).report x pool e).perform x
            (.answer pool (.error e)) else (w₁.modifyPool pool fun _ => p).report x pool e) := by
          split
          · exact h₂.trans (rely_perform_answer x pool _)
          · exact h₂
        have hs₃ : (if answer = true then ((w₁.modifyPool pool fun _ => p).report x pool e).perform x
            (.answer pool (.error e)) else (w₁.modifyPool pool fun _ => p).report x pool e).conns.size =
            w.conns.size := by
          split
          · rw [conns_perform_answer]; exact hs₂
          · exact hs₂
        split
        · exact h₃.trans (ih.1 _ x pool _ (hs₃ ▸ hw))
        · exact h₃

/-- A pool connection that closed frees its slot; the waiter it goes to gets a new connection. -/
theorem rely_freeSlot (x : Exec) (pool i : Nat) (h : id - 1 < w.conns.size) :
    Rely id w (w.freeSlot x pool i) := by
  unfold World.freeSlot
  split
  · exact .refl id w
  · split
    dsimp only
    split
    · exact (rely_modifyPool _ _).trans ((rely_connect_connectFailed id _).1 _ x pool _ h)
    · exact rely_modifyPool _ _

end Frame

end ConnSystem

end Affinity
