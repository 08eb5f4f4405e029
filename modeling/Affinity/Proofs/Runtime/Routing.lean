import Affinity.Machine.Binding
import Affinity.Proofs.Pool.Handlers
import Affinity.Proofs.Connection.Effects
/-!
Work that reaches the workers only through the dispatcher.

Whatever a callback, a task or a call of the library does, it reaches the workers in a few ways
only: it queues a command on the worker of a live context (`post`, `spawnOn`), wakes a task onto
its own worker's run queue, takes tasks off run queues, marks a context bound or destroys one.
`Routes w w'` says that `w'` follows from `w` by such work: the runtime keeps running or stays
stopped, every worker keeps its thread, every command added lands at the end of the queue of the
worker its context is pinned to (and only while the runtime runs), no live context moves to
another worker or comes back, every task keeps its worker and context, a task joins only the
run queue of its own worker, and the mailboxes are left as they were (a delivery reads them, and
only registering and unregistering change them).

`Routes` composes (`Routes.trans`). Every function of the model that runs inside a command or a
poll routes its work so, and so do the calls a program makes: `routes_perform`,
`routes_pollTask`, `routes_post`, `routes_send`, the pool's and the connections' functions.
-/

namespace Affinity

/-- The worker a task is polled by and the context it is polled under. -/
def Task.site (t : Task) : Nat × ContextId := (t.worker, t.ctx)

/-- The tasks a worker may poll next: its local and remote queues and the tasks deferred in its
    current turn. -/
def Worker.runQueue (v : Worker) : List Nat := v.localQueue ++ v.remoteQueue ++ v.deferred

/-- What a worker does to itself when it stops: its thread ends and its queues are emptied. -/
def Worker.halt (v : Worker) : Worker :=
  { v with alive := false, commands := [], localQueue := [], remoteQueue := [], deferred := [] }

/-- Picking a task takes it off a run queue and changes nothing else the dispatcher reads. -/
theorem Worker.pick_spec (v : Worker) :
    v.pick.2.commands = v.commands ∧ v.pick.2.alive = v.alive ∧
      (∀ j ∈ v.pick.2.runQueue, j ∈ v.runQueue) ∧ ∀ t, v.pick.1 = some t → t ∈ v.runQueue := by
  unfold Worker.pick
  cases hl : v.localQueue <;> cases hr : v.remoteQueue <;> dsimp only <;> split <;>
    simp [Worker.runQueue, hl, hr] <;> tauto

/-- Command `cmd` is for a context that registry `r` pins to worker `k`. -/
def Registry.Places (r : Registry) (k : Nat) (cmd : Command) : Prop :=
  ∃ c, cmd.context = some c ∧ r.workerOf c = some ⟨k⟩

/-- `r'` is `r` with some contexts destroyed or marked bound: no context is added or moved, and
    new ones are still numbered and placed as before. -/
structure Registry.Shrinks (r r' : Registry) : Prop where
  workerCount : r'.workerCount = r.workerCount
  nextId : r'.nextId = r.nextId
  nextWorker : r'.nextWorker = r.nextWorker
  workerOf : ∀ c k, r'.workerOf c = some k → r.workerOf c = some k

namespace World

/-- The tasks worker `k` may poll next. -/
def runQueue (w : World) (k : Nat) : List Nat := (w.workers[k]?.map Worker.runQueue).getD []

/-- Whether worker `k`'s thread still runs. -/
def alive (w : World) (k : Nat) : Bool := (w.workers[k]?.map (·.alive)).getD false

/-- The worker and context of task `t`. -/
def taskSite (w : World) (t : Nat) : Option (Nat × ContextId) := (w.tasks[t]?).map Task.site

/-- Task `t` belongs to worker `k`. -/
def Owns (w : World) (k t : Nat) : Prop := ∃ c, w.taskSite t = some (k, c)

/-- `w'` follows from `w` by work that reaches the workers only through the dispatcher. -/
structure Routes (w w' : World) : Prop where
  running : w'.running = w.running
  size : w'.workers.size = w.workers.size
  alive : ∀ k, w'.alive k = w.alive k
  registry : w.registry.Shrinks w'.registry
  queued : ∀ k, ∃ more, w'.queue k = w.queue k ++ more ∧ (w.running = false → more = []) ∧
    ∀ cmd ∈ more, w.registry.Places k cmd
  sites : ∀ t, w'.taskSite t = w.taskSite t
  runQueue : ∀ k t, t ∈ w'.runQueue k → t ∈ w.runQueue k ∨ w.Owns k t
  mailboxes : w'.mailboxes = w.mailboxes

end World

namespace Registry.Shrinks

variable {r₁ r₂ r₃ : Registry}

theorem refl (r : Registry) : r.Shrinks r := ⟨rfl, rfl, rfl, fun _ _ h => h⟩

theorem trans (h₁ : r₁.Shrinks r₂) (h₂ : r₂.Shrinks r₃) : r₁.Shrinks r₃ :=
  ⟨h₂.workerCount.trans h₁.workerCount, h₂.nextId.trans h₁.nextId, h₂.nextWorker.trans h₁.nextWorker,
    fun c k h => h₁.workerOf c k (h₂.workerOf c k h)⟩

theorem places (h : r₁.Shrinks r₂) {k : Nat} {cmd : Command} (hp : r₂.Places k cmd) : r₁.Places k cmd := by
  obtain ⟨c, hc, hk⟩ := hp
  exact ⟨c, hc, h.workerOf c _ hk⟩

theorem bind (r : Registry) (c : ContextId) : r.Shrinks (r.bind c) :=
  ⟨rfl, rfl, rfl, fun o k h => by rwa [Registry.workerOf_bind] at h⟩

theorem destroy (r : Registry) (c : ContextId) : r.Shrinks (r.destroy c).2 := by
  refine ⟨rfl, rfl, rfl, fun o k h => ?_⟩
  rw [Registry.workerOf_destroy] at h
  split at h
  · cases h
  · exact h

end Registry.Shrinks

namespace World

variable {w w₁ w₂ w₃ : World}

theorem Owns.of_sites (h : ∀ t, w₂.taskSite t = w₁.taskSite t) {k t : Nat} (ho : w₂.Owns k t) : w₁.Owns k t := by
  obtain ⟨c, hc⟩ := ho
  exact ⟨c, h t ▸ hc⟩

namespace Routes

theorem refl (w : World) : Routes w w where
  running := rfl
  size := rfl
  alive _ := rfl
  registry := .refl _
  queued _ := ⟨[], by simp, fun _ => rfl, by simp⟩
  sites _ := rfl
  runQueue _ _ h := .inl h
  mailboxes := rfl

theorem trans (h₁ : Routes w₁ w₂) (h₂ : Routes w₂ w₃) : Routes w₁ w₃ where
  running := h₂.running.trans h₁.running
  size := h₂.size.trans h₁.size
  alive k := (h₂.alive k).trans (h₁.alive k)
  registry := h₁.registry.trans h₂.registry
  queued k := by
    obtain ⟨m₁, hq₁, hr₁, hp₁⟩ := h₁.queued k
    obtain ⟨m₂, hq₂, hr₂, hp₂⟩ := h₂.queued k
    refine ⟨m₁ ++ m₂, by rw [hq₂, hq₁, List.append_assoc], fun hr => ?_, fun cmd hc => ?_⟩
    · rw [hr₁ hr, hr₂ (h₁.running.trans hr)]
      rfl
    · rcases List.mem_append.mp hc with hc | hc
      · exact hp₁ cmd hc
      · -- the second stretch placed its commands by a registry that only lost contexts
        exact h₁.registry.places (hp₂ cmd hc)
  sites t := (h₂.sites t).trans (h₁.sites t)
  runQueue k t ht := by
    rcases h₂.runQueue k t ht with ht | ho
    · exact h₁.runQueue k t ht
    · exact .inr (ho.of_sites h₁.sites)
  mailboxes := h₂.mailboxes.trans h₁.mailboxes

/-- The work of a callback or a call that touches neither the registry, the workers, the tasks
    nor the mailboxes. -/
theorem same (hr : w₂.registry = w₁.registry) (hrun : w₂.running = w₁.running)
    (hw : w₂.workers = w₁.workers) (ht : w₂.tasks = w₁.tasks) (hm : w₂.mailboxes = w₁.mailboxes) :
    Routes w₁ w₂ where
  running := hrun
  size := by rw [hw]
  alive k := by simp only [World.alive, hw]
  registry := hr ▸ .refl _
  queued k := ⟨[], by simp [World.queue, hw], fun _ => rfl, by simp⟩
  sites t := by simp only [World.taskSite, ht]
  runQueue k t h := .inl (by simpa only [World.runQueue, hw] using h)
  mailboxes := hm

/-- Work that starts with a change of nothing the dispatcher reads. -/
theorem pre (h : Routes w₂ w₃) (hr : w₂.registry = w₁.registry) (hrun : w₂.running = w₁.running)
    (hw : w₂.workers = w₁.workers) (ht : w₂.tasks = w₁.tasks) (hm : w₂.mailboxes = w₁.mailboxes) :
    Routes w₁ w₃ :=
  (same hr hrun hw ht hm).trans h

theorem withRegistry {r : Registry} (h : w.registry.Shrinks r) : Routes w { w with registry := r } where
  running := rfl
  size := rfl
  alive _ := rfl
  registry := h
  queued _ := ⟨[], by simp [World.queue], fun _ => rfl, by simp⟩
  sites _ := rfl
  runQueue _ _ h := .inl h
  mailboxes := rfl

theorem modifyTask (t : Nat) {f : Task → Task} (hf : ∀ v, (f v).site = v.site) :
    Routes w (w.modifyTask t f) := by
  refine ⟨rfl, rfl, fun _ => rfl, .refl _, fun _ => ⟨[], by simp [World.queue, World.modifyTask], fun _ => rfl, by simp⟩,
    fun j => ?_, fun _ _ h => .inl h, rfl⟩
  simp only [World.taskSite, World.modifyTask, Array.getElem?_modify]
  split
  · cases w.tasks[j]? <;> simp [hf]
  · rfl

/-- A change of one worker that keeps its commands and its thread, and lets into its run queues
    only tasks that were there or that belong to it. -/
theorem modifyWorker (k : Nat) {f : Worker → Worker}
    (hc : ∀ v, w.workers[k]? = some v → (f v).commands = v.commands)
    (ha : ∀ v, w.workers[k]? = some v → (f v).alive = v.alive)
    (hq : ∀ v, w.workers[k]? = some v → ∀ t ∈ (f v).runQueue, t ∈ v.runQueue ∨ w.Owns k t) :
    Routes w (w.modifyWorker k f) where
  running := rfl
  size := Array.size_modify
  alive j := by
    simp only [World.alive, World.modifyWorker, Array.getElem?_modify]
    split
    · rename_i hkj
      subst hkj
      cases hv : w.workers[k]? with
      | none => rfl
      | some v => simp [ha v hv]
    · rfl
  registry := .refl _
  queued j := by
    refine ⟨[], ?_, fun _ => rfl, by simp⟩
    rw [queue_modifyWorker]
    split
    · rename_i hkj
      subst hkj
      cases hv : w.workers[k]? with
      | none => simp [World.queue, hv]
      | some v => simp [World.queue, hv, hc v hv]
    · simp
  sites _ := rfl
  runQueue j t ht := by
    simp only [World.runQueue, World.modifyWorker, Array.getElem?_modify] at ht ⊢
    split at ht
    · rename_i hkj
      subst hkj
      cases hv : w.workers[k]? with
      | none => simp [hv] at ht
      | some v =>
        simp only [hv, Option.map_some, Option.getD_some] at ht ⊢
        exact hq v hv t ht
    · exact .inl ht
  mailboxes := rfl

/-- Queuing a command at the end of the queue of the worker its context is pinned to, while the
    runtime runs. -/
theorem push {k : Nat} {cmd : Command} (hp : w.registry.Places k cmd) (hrun : w.running = true) :
    Routes w (w.modifyWorker k (·.push cmd)) where
  running := rfl
  size := Array.size_modify
  alive j := by
    simp only [World.alive, World.modifyWorker, Array.getElem?_modify]
    split
    · cases w.workers[j]? <;> rfl
    · rfl
  registry := .refl _
  queued j := by
    rw [queue_modifyWorker]
    split
    · rename_i hkj
      subst hkj
      cases hv : w.workers[k]? with
      | none => exact ⟨[], by simp [World.queue, hv], fun _ => rfl, by simp⟩
      | some v =>
        refine ⟨[cmd], by simp [World.queue, hv, Worker.push], fun h => by simp [hrun] at h, ?_⟩
        simpa using hp
    · exact ⟨[], by simp, fun _ => rfl, by simp⟩
  sites _ := rfl
  runQueue j t ht := by
    simp only [World.runQueue, World.modifyWorker, Array.getElem?_modify] at ht ⊢
    split at ht
    · rename_i hkj
      subst hkj
      cases hv : w.workers[k]? <;> simp_all [Worker.push, Worker.runQueue]
    · exact .inl ht
  mailboxes := rfl

/-- Work done item by item, each routed. -/
theorem foldl {α : Type} {f : World → α → World} (hf : ∀ w a, Routes w (f w a)) :
    ∀ (as : List α) (w : World), Routes w (as.foldl f w)
  | [], w => .refl w
  | a :: as, w => (hf w a).trans (foldl hf as _)

end Routes

theorem taskSite_modifyTask {t : Nat} {f : Task → Task} (hf : ∀ v, (f v).site = v.site) (j : Nat) :
    (w.modifyTask t f).taskSite j = w.taskSite j := (Routes.modifyTask (w := w) t hf).sites j

/-- Work that starts by changing a task's state, not its site. -/
theorem Routes.of_modifyTask {t : Nat} {f : Task → Task} (h : Routes (w.modifyTask t f) w')
    (hf : ∀ v, (f v).site = v.site) : Routes w w' :=
  (Routes.modifyTask t hf).trans h

theorem Owns.modifyTask {k j t : Nat} {f : Task → Task} (ho : w.Owns k j) (hf : ∀ v, (f v).site = v.site) :
    (w.modifyTask t f).Owns k j :=
  ho.of_sites fun i => (taskSite_modifyTask hf i).symm

theorem owns_of_task {t : Nat} {task : Task} (h : w.tasks[t]? = some task) : w.Owns task.worker t :=
  ⟨task.ctx, by simp [taskSite, h, Task.site]⟩

section Plain

variable (x : Exec) (i : Nat)

theorem routes_note (n : Note) : Routes w (w.note x n) := .same rfl rfl rfl rfl rfl
theorem routes_modifyConn (f : Connection → Connection) : Routes w (w.modifyConn i f) := .same rfl rfl rfl rfl rfl
theorem routes_modifyPool (f : Pool → Pool) : Routes w (w.modifyPool i f) := .same rfl rfl rfl rfl rfl
theorem routes_modifyServer (f : Server → Server) : Routes w (w.modifyServer i f) := .same rfl rfl rfl rfl rfl
theorem routes_modifyDuplex (f : Net.Duplex → Net.Duplex) : Routes w (w.modifyDuplex i f) := .same rfl rfl rfl rfl rfl
theorem routes_modifyTransport (f : MemoryTransport → MemoryTransport) : Routes w (w.modifyTransport i f) :=
  .same rfl rfl rfl rfl rfl

end Plain

/-- Adding a task to a run queue of worker `k` that belongs to `k`. -/
theorem routes_enqueue (k : Nat) {t : Nat} (ho : w.Owns k t) {f : Worker → Worker}
    (hc : ∀ v, (f v).commands = v.commands) (ha : ∀ v, (f v).alive = v.alive)
    (hq : ∀ v, ∀ j ∈ (f v).runQueue, j ∈ v.runQueue ∨ j = t) : Routes w (w.modifyWorker k f) :=
  Routes.modifyWorker k (fun v _ => hc v) (fun v _ => ha v) fun v _ j hj =>
    (hq v j hj).imp_right fun (h : j = t) => h ▸ ho

/-- Marking a task and putting it on a run queue of its own worker. -/
theorem routes_requeue {t : Nat} {task : Task} (ht : w.tasks[t]? = some task) {f : Task → Task}
    (hf : ∀ v, (f v).site = v.site) {g : Worker → Worker} (hc : ∀ v, (g v).commands = v.commands)
    (ha : ∀ v, (g v).alive = v.alive) (hq : ∀ v, ∀ j ∈ (g v).runQueue, j ∈ v.runQueue ∨ j = t) :
    Routes w ((w.modifyTask t f).modifyWorker task.worker g) :=
  .of_modifyTask (routes_enqueue _ ((owns_of_task ht).modifyTask hf) hc ha hq) hf

theorem routes_count (k : Nat) (f : WorkerStats → WorkerStats) : Routes w (w.count k f) :=
  Routes.modifyWorker k (fun _ _ => rfl) (fun _ _ => rfl) fun _ _ _ h => .inl h

theorem routes_submit {k : Nat} {cmd : Command} (hp : w.registry.Places k cmd) (h : w.submit k cmd = .ok w') :
    Routes w w' := by
  unfold submit at h
  split at h
  · cases h
    exact .push hp ‹_›
  · cases h

theorem routes_post {ctx : ContextId} {job : Job} (h : w.post ctx job = .ok w') : Routes w w' := by
  unfold post at h
  split at h
  · cases h
  · exact routes_submit ⟨ctx, rfl, ‹_›⟩ h

theorem routes_spawnOn {ctx : ContextId} {t : TaskKind} (h : w.spawnOn ctx t = .ok w') : Routes w w' := by
  unfold spawnOn at h
  split at h
  · cases h
  · exact routes_submit ⟨ctx, rfl, ‹_›⟩ h

/-- A woken task joins a run queue of its own worker. -/
theorem routes_wake (x : Exec) (t : Nat) : Routes w (w.wake x t) := by
  unfold wake
  split
  · exact .refl w
  · rename_i task ht
    split
    · exact .refl w
    · split
      · exact .modifyTask t fun _ => rfl
      · dsimp only
        split <;>
        · refine routes_requeue ht (fun _ => ?_) (fun _ => ?_) (fun _ => ?_) fun v j hj => ?_
          · rfl
          · rfl
          · rfl
          · simp only [Worker.runQueue, List.mem_append, List.mem_singleton] at hj ⊢
            tauto

theorem routes_wakeSelecting (x : Exec) (id : Nat) : Routes w (w.wakeSelecting x id) := by
  unfold wakeSelecting
  split
  · split
    · exact routes_wake x _
    · exact .refl w
  · exact .refl w

theorem routes_closedNow (x : Exec) (id : Nat) : Routes w (w.closedNow x id) := by
  unfold closedNow
  split
  · exact .refl w
  · split <;> exact .same rfl rfl rfl rfl rfl

theorem routes_notifyClosed (x : Exec) (id : Nat) : Routes w (w.notifyClosed x id).2 := by
  unfold notifyClosed
  split
  · exact .refl w
  · dsimp only
    split
    · exact routes_closedNow x id
    · split
      · exact routes_post ‹_›
      · exact .refl w

theorem routes_perform (x : Exec) : ∀ work, Routes w (w.perform x work)
  | .record _ => .same rfl rfl rfl rfl rfl
  | .fail => .refl w
  | .deliver mb h msg => by
    dsimp only [perform]
    split
    · split
      · exact .same rfl rfl rfl rfl rfl
      · exact .refl w
    · exact .refl w
  | .answer pool (.ok id) => by
    dsimp only [perform]
    split <;> exact .same rfl rfl rfl rfl rfl
  | .answer pool (.error e) => .same rfl rfl rfl rfl rfl
  | .connData id s bytes => by
    dsimp only [perform]
    split
    · split
      · exact .same rfl rfl rfl rfl rfl
      · exact .refl w
    · exact .refl w
  | .connSignal id s kind => by
    dsimp only [perform]
    split
    · split
      · exact .same rfl rfl rfl rfl rfl
      · exact .refl w
    · exact .refl w
  | .connError id s e => by
    dsimp only [perform]
    split
    · split
      · exact .same rfl rfl rfl rfl rfl
      · exact .refl w
    · exact .refl w
  | .connClosed id s => by
    dsimp only [perform]
    split
    · exact routes_closedNow x id
    · have h := routes_notifyClosed (w := w) x id
      generalize w.notifyClosed x id = r at h ⊢
      obtain ⟨sent, w₁⟩ := r
      dsimp only
      split
      · exact h
      · exact h.trans (.same rfl rfl rfl rfl rfl)
  | .destroy ctx => .withRegistry (.destroy _ ctx)

theorem routes_runOn {x : Exec} {ctx : ContextId} {work : Work} (h : w.runOn x ctx work = .ok w') :
    Routes w w' := by
  unfold runOn at h
  split at h
  · cases h
    exact routes_perform x work
  · exact routes_post h

theorem routes_runOnOrDrop (x : Exec) (ctx : ContextId) (work : Work) : Routes w (w.runOnOrDrop x ctx work) := by
  unfold runOnOrDrop
  split
  · exact routes_runOn ‹_›
  · exact .refl w

theorem routes_send (x : Exec) (mb h : Nat) (msg : String) : Routes w (w.send x mb h msg) := by
  unfold send
  split
  · exact routes_runOnOrDrop x _ _
  · exact .refl w

theorem routes_emit (x : Exec) (id : Nat) (mk : Stamp → Work) : Routes w (w.emit x id mk) := by
  unfold emit
  split
  · exact routes_runOnOrDrop x _ _
  · exact .refl w

theorem routes_wrote (x : Exec) (id len : Nat) : Routes w (w.wrote x id len) := by
  unfold wrote
  split
  · exact .refl w
  · dsimp only
    split
    · exact (routes_emit x id _).pre rfl rfl rfl rfl rfl
    · exact .same rfl rfl rfl rfl rfl

theorem routes_close (x : Exec) (id : Nat) : Routes w (w.close x id) := by
  unfold close
  split
  · exact .refl w
  · split
    · exact .refl w
    · split
      · exact (routes_wakeSelecting x id).pre rfl rfl rfl rfl rfl
      · exact .same rfl rfl rfl rfl rfl

theorem routes_write (x : Exec) (id : Nat) (bytes : ByteArray) (tag : Option String) :
    Routes w (w.write x id bytes tag).2 := by
  unfold write
  split
  · exact .refl w
  · split
    · exact .refl w
    · dsimp only
      split
      · exact .same rfl rfl rfl rfl rfl
      · exact (routes_wakeSelecting x id).pre rfl rfl rfl rfl rfl

theorem routes_setPaused (x : Exec) (id : Nat) (on : Bool) : Routes w (w.setPaused x id on) :=
  (routes_wakeSelecting x id).pre rfl rfl rfl rfl rfl

theorem routes_abort (id : Nat) : Routes w (w.abort id).2 := by
  unfold abort
  split
  · exact .refl w
  · exact .same rfl rfl rfl rfl rfl

theorem routes_report (x : Exec) (pool : Nat) (e : Error) : Routes w (w.report x pool e) := by
  unfold report
  split
  · split
    · exact .same rfl rfl rfl rfl rfl
    · exact .refl w
  · exact .refl w

/-- A connect and a failed connect route their work: the chain of connects they start for later
    waiters spawns each connect task on its waiter's context. -/
theorem routes_connect (x : Exec) (pool : Nat) : ∀ fuel,
    (∀ w ctx, Routes w (w.connect x pool ctx fuel)) ∧
      ∀ w id e answer, Routes w (w.connectFailed x pool id e answer fuel)
  | 0 => ⟨fun w _ => by rw [connect.eq_1]; exact .refl w,
      fun w _ _ _ => by rw [connectFailed.eq_1]; exact .refl w⟩
  | fuel + 1 => by
    obtain ⟨ihc, ihf⟩ := routes_connect x pool fuel
    refine ⟨fun w ctx => ?_, fun w id e answer => ?_⟩
    · rw [connect.eq_2]
      split
      · exact .refl w
      · dsimp only
        split
        · rename_i w₁ hs
          exact (routes_spawnOn hs).pre rfl rfl rfl rfl rfl
        · exact (ihf _ _ _ _).pre rfl rfl rfl rfl rfl
    · rw [connectFailed.eq_2]
      split
      rename_i w₁ hab
      have h₁ : Routes w w₁ := by
        have := routes_abort (w := w) id
        rwa [hab] at this
      refine h₁.trans ?_
      split
      · exact .refl w₁
      · split
        rename_i next p' _
        have h₂ : Routes w₁ ((w₁.modifyPool pool fun _ => p').report x pool e) :=
          (routes_report x pool e).pre rfl rfl rfl rfl rfl
        dsimp only
        -- the requester, if there is one, is answered, and the slot goes to the next waiter
        split
        · refine Routes.trans ?_ (ihc _ _)
          split
          · exact h₂.trans (routes_perform x _)
          · exact h₂
        · split
          · exact h₂.trans (routes_perform x _)
          · exact h₂

/-- A hand-off posts the answer to the waiting context; a check-in hands off, idles or closes. -/
theorem routes_handOff (x : Exec) (pool : Nat) : ∀ fuel,
    (∀ w id ctx, Routes w (w.handOff x pool id ctx fuel)) ∧
      ∀ w id caller w', w.checkIn x pool id caller fuel = .ok w' → Routes w w'
  | 0 => ⟨fun w _ _ => by rw [handOff.eq_1]; exact .refl w, fun w _ _ w' h => by
      rw [checkIn.eq_1] at h; cases h; exact .refl w⟩
  | fuel + 1 => by
    obtain ⟨ihh, ihc⟩ := routes_handOff x pool fuel
    refine ⟨fun w id ctx => ?_, fun w id caller w' h => ?_⟩
    · rw [handOff.eq_2]
      split
      · rename_i w₁ hp
        exact (routes_post hp).pre rfl rfl rfl rfl rfl
      · split
        · rename_i w₁ hc
          exact (ihc _ _ _ _ hc).pre rfl rfl rfl rfl rfl
        · exact .same rfl rfl rfl rfl rfl
    · rw [checkIn.eq_2] at h
      split at h
      · split at h
        · cases h
        · dsimp only at h
          split at h
          · cases h
            exact (ihh _ _ _).pre rfl rfl rfl rfl rfl
          · cases h
            exact .same rfl rfl rfl rfl rfl
          · cases h
            exact (routes_close _ _).pre rfl rfl rfl rfl rfl
      · split at h
        · cases h
        · cases h
          exact .refl w
      · cases h
        exact .refl w

theorem routes_acquireOn {x : Exec} {pool : Nat} {ctx : ContextId} (h : w.acquireOn x pool ctx = .ok w') :
    Routes w w' := by
  unfold acquireOn at h
  split at h
  · cases h
  · split at h
    · cases h
      exact .refl w
    · split at h
      · cases h
      · dsimp only at h
        split at h
        · cases h
          exact ((routes_handOff x pool _).1 _ _ _).pre rfl rfl rfl rfl rfl
        · cases h
          exact ((routes_connect x pool _).1 _ _).pre rfl rfl rfl rfl rfl
        · cases h
          exact .same rfl rfl rfl rfl rfl

theorem routes_release {x : Exec} {pool id : Nat} (h : w.release x pool id = .ok w') : Routes w w' := by
  unfold release at h
  split at h
  · cases h
  · exact (routes_handOff x pool _).2 _ _ _ _ h

theorem routes_closePool (x : Exec) (pool : Nat) : Routes w (w.closePool x pool) := by
  unfold closePool
  split
  · exact .refl w
  · split
    · exact .refl w
    · dsimp only
      -- every waiter is told on its own context, then every live connection is asked to close
      refine Routes.trans ?_ (Routes.foldl (fun _ i => routes_close x i) _ _)
      refine (Routes.foldl (fun w₁ c => ?_) _ _).pre rfl rfl rfl rfl rfl
      split
      · exact routes_post ‹_›
      · exact .refl w₁

theorem routes_freeSlot (x : Exec) (pool id : Nat) : Routes w (w.freeSlot x pool id) := by
  unfold freeSlot
  split
  · exact .refl w
  · split
    dsimp only
    split
    · exact ((routes_connect x pool _).1 _ _).pre rfl rfl rfl rfl rfl
    · exact .same rfl rfl rfl rfl rfl

theorem routes_sendClosed (x : Exec) (id : Nat) : Routes w (w.sendClosed x id) := by
  have h := routes_notifyClosed (w := w) x id
  unfold sendClosed
  cases hn : w.notifyClosed x id with
  | mk sent w₁ =>
    rw [hn] at h
    dsimp only
    split
    · exact h
    · exact h.trans (.same rfl rfl rfl rfl rfl)

theorem routes_markClosed (x : Exec) (id : Nat) : Routes w (w.markClosed x id) := by
  have h : Routes (w.modifyConn id ({ · with state := .closed, queued := 0 }))
      ((w.modifyConn id ({ · with state := .closed, queued := 0 })).sendClosed x id) :=
    routes_sendClosed x id
  refine (h.pre ?_ ?_ ?_ ?_ ?_).trans (.same ?_ ?_ ?_ ?_ ?_) <;> rfl

/-- A close hook frees the pool's slot, or has the server forget the connection and destroy its
    context, on that context when it can. -/
theorem routes_runHook (x : Exec) (id : Nat) : ∀ hook, Routes w (w.runHook x id hook)
  | some (.pool p) => routes_freeSlot x p id
  | some (.server s ctx) => by
    dsimp only [runHook]
    split
    · rename_i w₁ hp
      exact (routes_post hp).pre rfl rfl rfl rfl rfl
    · exact (Routes.withRegistry (.destroy _ _)).pre rfl rfl rfl rfl rfl
  | none => .refl w

theorem routes_finishClose (x : Exec) (id : Nat) : Routes w (w.finishClose x id) := by
  cases hc : w.conn? id with
  | none =>
    unfold finishClose
    rw [hc]
    exact .refl w
  | some c =>
    rw [finishClose_eq x hc]
    split
    · exact .refl w
    · exact (routes_markClosed x id).trans (routes_runHook x id _)

/-- A driver that stops on a failure reports it first, then stops as without one. -/
theorem stopDriver_some (x : Exec) (t id : Nat) (e : Error) :
    w.stopDriver x t id (some e) = (w.emit x id (.connError id · e)).stopDriver x t id none := rfl

/-- A stopping driver shuts the outgoing pipe, finishes the close, marks its task finished and
    drops the stream. -/
theorem routes_stopDriver_none (x : Exec) (t id : Nat) : Routes w (w.stopDriver x t id none) := by
  have hclose : ∀ w₁ : World, Routes w₁
      ((((w₁.finishClose x id).modifyTask t ({ · with gone := true, phase := .finished })).modifyConn id
        ({ · with driverHeld := false, outbound := [] }))) := by
    intro w₁
    refine ((routes_finishClose x id).trans (Routes.modifyTask t ?_)).trans (routes_modifyConn _ _)
    exact fun _ => rfl
  unfold stopDriver
  dsimp only
  cases (w.conn? id).bind (·.duplex) with
  | some d => exact (routes_modifyDuplex _ _).trans ((hclose _).trans (routes_modifyDuplex _ _))
  | none => exact hclose _

theorem routes_stopDriver (x : Exec) (t id : Nat) : ∀ failure, Routes w (w.stopDriver x t id failure)
  | some e => by
    rw [stopDriver_some]
    exact (routes_emit x id _).trans (routes_stopDriver_none x t id)
  | none => routes_stopDriver_none x t id

/-- One poll of a driver: every event goes to the owner through `runOnOrDrop`, every written
    item's completion to the context that wrote it. -/
theorem routes_driveLoop (x : Exec) (t id : Nat) : ∀ fuel (w : World), Routes w (w.driveLoop x t id fuel)
  | 0, w => by rw [driveLoop.eq_1]; exact .refl w
  | fuel + 1, w => by
    have ih := routes_driveLoop x t id fuel
    rw [driveLoop.eq_2]
    split
    · exact .refl w
    · split
      · exact .refl w
      · dsimp only
        split
        · split
          · exact (routes_wrote x id _).trans (routes_stopDriver x t id _)
          · split
            · refine Routes.trans ?_ (ih _)
              split
              · exact (routes_modifyDuplex _ _).trans ((routes_modifyConn _ _).trans
                  ((routes_wrote x id _).trans (routes_runOnOrDrop x _ _)))
              · exact (routes_modifyDuplex _ _).trans ((routes_modifyConn _ _).trans (routes_wrote x id _))
            · exact (routes_modifyDuplex _ _).trans (routes_modifyConn _ _)
        · split
          · exact (routes_modifyConn _ _).trans (ih _)
          · exact (routes_modifyConn _ _).trans (routes_stopDriver x t id _)
          · split
            · exact ((routes_modifyDuplex _ _).trans (routes_emit x id _)).trans (ih _)
            · exact (routes_emit x id _).trans (routes_stopDriver x t id _)
            · split
              · exact (routes_modifyConn _ _).trans (ih _)
              · exact .refl w

theorem routes_pollConnect (x : Exec) (t pool id : Nat) (slept : Bool) :
    Routes w (w.pollConnect x t pool id slept) := by
  -- a failed connect marks the task finished, then answers and aborts as `connectFailed` does
  have hfail : ∀ (w₁ : World) (e : Error), Routes w₁
      ((w₁.modifyTask t ({ · with gone := true, phase := .finished })).connectFailed x pool id e true
        ((w₁.modifyTask t ({ · with gone := true, phase := .finished })).poolFuel pool)) :=
    fun w₁ e => .of_modifyTask ((routes_connect x pool _).2 _ _ _ _) fun _ => rfl
  unfold pollConnect
  split
  · exact .refl w
  · dsimp only
    split
    · exact hfail _ _
    · -- the attempt is counted unless the task wakes from its delay
      rename_i p _ _ ti _
      have h₁ : Routes w (if slept = true then w else w.modifyTransport ti fun tr =>
          { tr with attempts := tr.attempts + 1, endpoints := tr.endpoints ++ [p.endpoint] }) := by
        split
        · exact .refl w
        · exact routes_modifyTransport _ _
      generalize (if slept = true then w else _) = w₁ at h₁ ⊢
      refine h₁.trans ?_
      split
      · -- the task sleeps until its timer fires
        refine Routes.trans ?_ (Routes.modifyTask t fun _ => rfl)
        exact .same rfl rfl rfl rfl rfl
      · split
        · exact (routes_modifyTransport _ _).trans (hfail _ _)
        · -- the connect succeeds: the duplex is made, the requester answered and the driver started
          refine Routes.trans ?_ (routes_driveLoop x t id _ _)
          refine Routes.trans ?_ (Routes.modifyTask t fun _ => rfl)
          refine Routes.trans ?_ (routes_modifyConn _ _)
          refine Routes.trans ?_ (routes_perform x _)
          refine Routes.trans ?_ (routes_modifyPool _ _)
          exact (routes_modifyTransport _ _).pre rfl rfl rfl rfl rfl

/-- One poll of a task's future, which belongs to worker `k`. -/
theorem routes_advance (x : Exec) {t k : Nat} (ho : w.Owns k t) : ∀ phase, Routes w (w.advance x t k phase)
  | .script tag false => by
    dsimp only [advance]
    -- the task yields: it is deferred on its own worker
    have ho' : ((w.note x (.spawned tag)).modifyTask t fun v => { v with phase := .script tag true }).Owns k t :=
      ho.modifyTask fun _ => rfl
    refine (routes_note x _).trans (Routes.of_modifyTask
      (routes_enqueue k ho' (fun _ => rfl) (fun _ => rfl) fun v j hj => ?_) fun _ => rfl)
    simp only [Worker.runQueue, List.mem_append, List.mem_singleton] at hj ⊢
    tauto
  | .script tag true => (routes_note x _).trans (Routes.modifyTask t fun _ => rfl)
  | .connecting pool id slept => routes_pollConnect x t pool id slept
  | .driving id => routes_driveLoop x t id _ w
  | .accepting s => by
    dsimp only [advance]
    split
    · exact Routes.modifyTask t fun _ => rfl
    · exact .refl w
  | .finished => Routes.modifyTask t fun _ => rfl

theorem routes_endPoll (t : Nat) : Routes w (w.endPoll t) := by
  unfold endPoll
  split
  · rename_i task ht
    dsimp only
    split
    · -- woken while polled: back on its own worker's local queue
      have ho₁ : (w.modifyTask t fun v => { v with polling := false, rewoken := false }).Owns task.worker t :=
        (owns_of_task ht).modifyTask fun _ => rfl
      have ho : (((w.modifyTask t fun v => { v with polling := false, rewoken := false }).modifyTask t
          fun v => { v with queued := true })).Owns task.worker t :=
        ho₁.modifyTask fun _ => rfl
      refine Routes.of_modifyTask (Routes.of_modifyTask
        (routes_enqueue _ ho (fun _ => rfl) (fun _ => rfl) fun v j hj => ?_) fun _ => rfl) fun _ => rfl
      simp only [Worker.runQueue, List.mem_append, List.mem_singleton] at hj ⊢
      tauto
    · exact Routes.modifyTask t fun _ => rfl
  · exact .refl w

theorem routes_pollTask (t : Nat) : Routes w (w.pollTask t) := by
  unfold pollTask
  split
  · exact .refl w
  · rename_i task ht
    split
    · exact .refl w
    · have ho : (w.modifyTask t fun v => { v with queued := false, polling := true }).Owns task.worker t :=
        (owns_of_task ht).modifyTask fun _ => rfl
      exact Routes.of_modifyTask ((routes_advance _ ho _).trans (routes_endPoll t)) fun _ => rfl

/-- A worker picks tasks off its own run queues and polls them. -/
theorem routes_runTasks (k : Nat) : ∀ n (w : World), Routes w (runTasks k n w)
  | 0, w => .refl w
  | n + 1, w => by
    unfold runTasks
    split
    · exact .refl w
    · rename_i v hv
      split
      · exact .refl w
      · dsimp only
        obtain ⟨hc, ha, hq, -⟩ := v.pick_spec
        have h₁ : Routes w (w.modifyWorker k fun _ => v.pick.2) := by
          refine Routes.modifyWorker k (fun u hu => ?_) (fun u hu => ?_) fun u hu j hj => ?_
          all_goals
            rw [hv, Option.some_inj] at hu
            subst hu
          · exact hc
          · exact ha
          · exact .inl (hq j hj)
        split
        · exact h₁
        · exact h₁.trans ((routes_pollTask _).trans (routes_runTasks k n _))

/-- The tasks deferred in a turn are woken onto their own workers. -/
theorem routes_requeueDeferred (k : Nat) : Routes w (w.requeueDeferred k) := by
  unfold requeueDeferred
  dsimp only
  refine Routes.trans ?_ (Routes.foldl (fun w t => routes_wake _ t) _ _)
  refine Routes.modifyWorker k (fun _ _ => rfl) (fun _ _ => rfl) fun v _ j hj => .inl ?_
  simp only [Worker.runQueue, List.mem_append, List.not_mem_nil, or_false] at hj ⊢
  tauto

/-- Timers wake their tasks onto their own workers. -/
theorem routes_fireTimers : Routes w w.fireTimers.2 := by
  unfold fireTimers
  split
  · exact .refl w
  · exact (Routes.foldl (fun w (tm : Timer) => routes_wake _ tm.task) _ _).pre rfl rfl rfl rfl rfl

/-- The job of a command, with the scenario steps it may hold left to the other steps. -/
theorem routes_runJob (k : Nat) (x : Exec) (job : Job) :
    Routes w (w.runJob (fun _ _ w => ((), w)) k x [] job).2 := by
  unfold runJob
  split <;> dsimp only
  · exact routes_count k _
  · exact routes_count k _
  · exact (routes_perform x _).trans (routes_count k _)

theorem routes_dropCommand : ∀ cmd, Routes w (w.dropCommand cmd)
  | .spawn _ (.connect _ _) => routes_modifyConn _ _
  | .spawn _ .failing | .spawn _ (.script _) | .spawn _ (.accept _) | .run _ _ | .stop => .refl w

theorem routes_dropTask (t : Nat) : Routes w (w.dropTask t) := by
  unfold dropTask
  split
  · exact .refl w
  · split
    · exact .refl w
    · dsimp only
      have h₁ : Routes w ({ w.modifyTask t ({ · with gone := true, queued := false }) with
          timers := (w.modifyTask t ({ · with gone := true, queued := false })).timers.filter (·.task != t) }) :=
        .of_modifyTask (f := ({ · with gone := true, queued := false })) (.same rfl rfl rfl rfl rfl) fun _ => rfl
      split
      · exact h₁.trans (routes_modifyConn _ _)
      · split
        · exact (h₁.trans (routes_modifyConn _ _)).trans (routes_modifyDuplex _ _)
        · exact h₁.trans (routes_modifyConn _ _)
      · exact h₁

/-- A stopping worker drops its pending commands and its tasks, which routes no work, then ends
    its thread. -/
theorem stopWorker_eq (k : Nat) : ∃ w', Routes w w' ∧ w.stopWorker k = w'.modifyWorker k Worker.halt := by
  refine ⟨_, ?_, rfl⟩
  refine (Routes.foldl (fun w cmd => routes_dropCommand cmd) _ _).trans (Routes.foldl (fun w t => ?_) _ _)
  split
  · split
    · exact routes_dropTask t
    · exact .refl w
  · exact .refl w

end World

end Affinity
