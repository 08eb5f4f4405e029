import Affinity.Proofs.Runtime.System
/-!
Context affinity: where the work of a context runs.

`Placed` is the invariant of every reached state: each context is pinned to a worker that exists
when it is created, each command for a context waits on the queue of the worker it is pinned to,
and each run queue holds only tasks of its own worker, whose contexts are pinned to it. Every
step keeps it (`Placed.step`), and no step moves a pin (`Placed.pin_step`).

From it, `context_affinity`: in every state reached from a fresh runtime, a job or a future for a
context is run by the worker the context was pinned to at its creation, with the context
current; a callback runs inline exactly when the caller is bound to its context in the same
runtime, and is posted otherwise; posting runs nothing; and a worker puts its thread's binding
back after each command.
-/

namespace Affinity

namespace World

variable {w : World}

/-- A callback runs inline exactly when the caller is bound to its context in this runtime: a
    context of another runtime with the same number does not count. -/
theorem runOn_view (w : World) (th : Thread) (r : RuntimeId) (c : ContextId) (work : Work) :
    w.runOn (th.view r) c work =
      if th.binding = some ⟨r, c⟩ then .ok (w.perform (th.view r) work) else w.post c (.work work) := by
  have hcur := th.current_eq_some r c
  by_cases hb : th.binding = some ⟨r, c⟩
  · rw [if_pos hb]
    exact runOn_inline w _ c work (hcur.mpr hb)
  · rw [if_neg hb, runOn, if_neg]
    simpa [Thread.view] using mt hcur.mp hb

/-- A post runs nothing: it puts the job at the back of the queue of its context's worker. -/
theorem post_ok {c : ContextId} {job : Job} {w' : World} (h : w.post c job = .ok w') :
    ∃ k, w.registry.workerOf c = some k ∧ w' = w.modifyWorker k.index (·.push (.run c job)) := by
  unfold post at h
  split at h
  · cases h
  · rename_i k hk
    unfold submit at h
    split at h
    · cases h
      exact ⟨k, hk, rfl⟩
    · cases h

/-- A poll of a live task runs its phase on the task's worker, with its context current. -/
theorem pollTask_of {t : Nat} {task : Task} (ht : w.tasks[t]? = some task) (hg : task.gone = false) :
    w.pollTask t = ((w.modifyTask t ({ · with queued := false, polling := true })).advance
      ⟨some task.worker, some task.ctx⟩ t task.worker task.phase).endPoll t := by
  simp [pollTask, ht, hg]

end World

namespace RuntimeSystem

/-- Where work waits: every context is pinned to a worker that exists, when it is created and
    for good; every command for a context waits on the worker it is pinned to; every task runs
    on its context's worker, and only that worker's run queues hold it. -/
structure Placed (s : St) : Prop where
  size : s.world.workers.size = s.world.registry.workerCount
  pos : 0 < s.world.workers.size
  registered : ∀ c k, s.world.registry.workerOf c = some k → s.ghost.pin c = some k.index
  pinned : ∀ c k, s.ghost.pin c = some k → c.val < s.world.registry.nextId ∧ k < s.world.workers.size
  queued : ∀ k cmd c, cmd ∈ s.world.queue k → cmd.context = some c → s.ghost.pin c = some k
  sites : ∀ t k c, s.world.taskSite t = some (k, c) → s.ghost.pin c = some k
  runQueue : ∀ k t, t ∈ s.world.runQueue k → s.world.Owns k t

namespace Placed

variable {w w' : World} {g : Ghost}

theorem numbered (hp : Placed ⟨w, g⟩) : w.registry.Numbered :=
  fun c k h => (hp.pinned c _ (hp.registered c k h)).1

theorem of_start {s : St} (h : Start s) : Placed s where
  size := h.workers
  pos := h.pos
  registered c k hk := by rw [h.pin, hk]; rfl
  pinned c k hk := by
    rw [h.pin] at hk
    obtain ⟨k', hk', rfl⟩ := Option.map_eq_some_iff.mp hk
    exact ⟨h.numbered c k' hk', h.placed c k' hk'⟩
  queued k cmd c hc _ := by
    cases hv : s.world.workers[k]? with
    | none => simp [World.queue, hv] at hc
    | some v => simp [World.queue, hv, (h.idle k v hv).1] at hc
  sites t k c ht := by
    have : s.world.tasks[t]? = none := Array.getElem?_eq_none (by rw [h.tasks]; omega)
    simp [World.taskSite, this] at ht
  runQueue k t ht := by
    cases hv : s.world.workers[k]? with
    | none => simp [World.runQueue, hv] at ht
    | some v => simp [World.runQueue, hv, (h.idle k v hv).2.1] at ht

/-- Work routed through the dispatcher keeps every command and task where it belongs. -/
theorem routes (hp : Placed ⟨w, g⟩) (h : w.Routes w') : Placed ⟨w', g⟩ where
  size := by rw [h.size, h.registry.workerCount]; exact hp.size
  pos := h.size ▸ hp.pos
  registered c k hk := hp.registered c k (h.registry.workerOf c k hk)
  pinned c k hk := by
    rw [h.registry.nextId, h.size]
    exact hp.pinned c k hk
  queued k cmd c hc hcx := by
    obtain ⟨more, hq, -, hm⟩ := h.queued k
    rw [hq] at hc
    rcases List.mem_append.mp hc with hc | hc
    · exact hp.queued k cmd c hc hcx
    · -- an added command sits on the worker the registry pins its context to
      obtain ⟨c', hc', hk⟩ := hm cmd hc
      rw [hcx, Option.some_inj] at hc'
      subst hc'
      exact hp.registered c ⟨k⟩ hk
  sites t k c ht := hp.sites t k c (h.sites t ▸ ht)
  runQueue k t ht := by
    rcases h.runQueue k t ht with ht | ho
    · exact (hp.runQueue k t ht).of_sites fun j => (h.sites j).symm
    · exact ho.of_sites fun j => (h.sites j).symm

/-- A step that changes neither the registry, the workers nor the tasks. -/
theorem congr (hp : Placed ⟨w, g⟩) (hr : w'.registry = w.registry) (hw : w'.workers = w.workers)
    (ht : w'.tasks = w.tasks) : Placed ⟨w', g⟩ where
  size := by rw [hr, hw]; exact hp.size
  pos := by rw [hw]; exact hp.pos
  registered c k hk := hp.registered c k (hr ▸ hk)
  pinned c k hk := by rw [hr, hw]; exact hp.pinned c k hk
  queued k cmd c hc := hp.queued k cmd c (by simpa only [World.queue, hw] using hc)
  sites t k c hs := hp.sites t k c (by simpa only [World.taskSite, ht] using hs)
  runQueue k t hq := by
    have := hp.runQueue k t (by simpa only [World.runQueue, hw] using hq)
    obtain ⟨c, hc⟩ := this
    exact ⟨c, by simpa only [World.taskSite, ht] using hc⟩

/-- Recording the registry's workers keeps every pin. -/
theorem pin_record (hp : Placed ⟨w, g⟩) {r : Registry} (hr : ∀ c k, c.val < w.registry.nextId →
    r.workerOf c = some k → w.registry.workerOf c = some k) {c : ContextId} {k : Nat}
    (h : g.pin c = some k) : (g.record r).pin c = some k := by
  show ((r.workerOf c).map (·.index)).or (g.pin c) = some k
  cases hc : r.workerOf c with
  | none => simpa using h
  | some k' =>
    have := hp.registered c k' (hr c k' (hp.pinned c k h).1 hc)
    rw [h] at this
    simpa using this.symm

/-- Creating a context pins it and keeps every earlier pin. -/
theorem pin_create (hp : Placed ⟨w, g⟩) (x : Exec) {c : ContextId} {k : Nat} (h : g.pin c = some k) :
    (g.record (w.create x).2.registry).pin c = some k := by
  refine hp.pin_record (fun o k' ho hk' => ?_) h
  rw [World.registry_create, Registry.workerOf_create_eq hp.numbered] at hk'
  -- the new context has the next id, which no earlier context reaches
  rwa [if_neg (fun he => by subst he; simp at ho)] at hk'

theorem create (hp : Placed ⟨w, g⟩) (x : Exec) (hx : ∀ k, x.worker = some k → k < w.workers.size) :
    Placed ⟨(w.create x).2, g.record (w.create x).2.registry⟩ := by
  have hnum := hp.numbered
  have hcreate : ∀ o, (w.create x).2.registry.workerOf o =
      if o = ⟨w.registry.nextId⟩ then some (w.registry.placeFor (x.worker.map (⟨·⟩))) else w.registry.workerOf o :=
    Registry.workerOf_create_eq hnum _
  -- the new context goes to a worker that exists
  have hplace : (w.registry.placeFor (x.worker.map (⟨·⟩))).index < w.workers.size := by
    cases hxw : x.worker with
    | some k => simpa [Registry.placeFor, hxw] using hx k hxw
    | none =>
      have hpos : 0 < w.registry.workerCount := hp.size ▸ hp.pos
      show w.registry.nextWorker % max w.registry.workerCount 1 < w.workers.size
      rw [hp.size, Nat.max_eq_left hpos]
      exact Nat.mod_lt _ hpos
  refine ⟨?_, hp.pos, fun c k hk => ?_, fun c k hk => ?_, fun k cmd c hc hcx => hp.pin_create x (hp.queued k cmd c hc hcx),
    fun t k c ht => hp.pin_create x (hp.sites t k c ht), hp.runQueue⟩
  · simpa [World.create] using hp.size
  · show ((_ : Option WorkerId).map (·.index)).or _ = _
    rw [hk]
    rfl
  · have hnext : (w.create x).2.registry.nextId = w.registry.nextId + 1 := Registry.nextId_create _ _
    have hsize : (w.create x).2.workers.size = w.workers.size := rfl
    rw [hnext, hsize]
    change ((_ : Option WorkerId).map (·.index)).or (g.pin c) = some k at hk
    cases hc : (w.create x).2.registry.workerOf c with
    | none =>
      rw [hc] at hk
      have := hp.pinned c k hk
      dsimp only at this
      omega
    | some k' =>
      rw [hc] at hk
      cases hk
      rw [hcreate] at hc
      split at hc
      · -- the new context
        rename_i he
        cases hc
        subst he
        exact ⟨Nat.lt_succ_self _, hplace⟩
      · have := hp.pinned c _ (hp.registered c k' hc)
        exact ⟨by dsimp only at this; omega, this.2⟩

/-- A change of one worker that lets into its queues only what was there, and into its run
    queues only tasks that belong to it. -/
theorem modifyWorker (hp : Placed ⟨w, g⟩) (k : Nat) {f : Worker → Worker}
    (hc : ∀ v, w.workers[k]? = some v → ∀ cmd ∈ (f v).commands, cmd ∈ v.commands)
    (hq : ∀ v, w.workers[k]? = some v → ∀ t ∈ (f v).runQueue, t ∈ v.runQueue ∨ w.Owns k t) :
    Placed ⟨w.modifyWorker k f, g⟩ where
  size := by rw [World.size_workers_modifyWorker]; exact hp.size
  pos := by rw [World.size_workers_modifyWorker]; exact hp.pos
  registered := hp.registered
  pinned c j hj := by rw [World.size_workers_modifyWorker]; exact hp.pinned c j hj
  queued j cmd c hcmd hcx := by
    rw [World.queue_modifyWorker] at hcmd
    split at hcmd
    · rename_i hkj
      subst hkj
      cases hv : w.workers[k]? with
      | none => simp [hv] at hcmd
      | some v =>
        simp only [hv, Option.map_some, Option.getD_some] at hcmd
        exact hp.queued k cmd c (by simpa [World.queue, hv] using hc v hv cmd hcmd) hcx
    · exact hp.queued j cmd c hcmd hcx
  sites := hp.sites
  runQueue j t ht := by
    simp only [World.runQueue, World.modifyWorker, Array.getElem?_modify] at ht
    split at ht
    · rename_i hkj
      subst hkj
      cases hv : w.workers[k]? with
      | none => simp [hv] at ht
      | some v =>
        simp only [hv, Option.map_some, Option.getD_some] at ht
        rcases hq v hv t ht with ht | ho
        · exact hp.runQueue k t (by simpa [World.runQueue, hv] using ht)
        · exact ho
    · exact hp.runQueue j t ht

/-- A runtime that shuts down queues a stop, which is for no context. -/
theorem shutdown (hp : Placed ⟨w, g⟩) : Placed ⟨w.stopAll, g⟩ where
  size := by simp only [World.stopAll, Array.size_map]; exact hp.size
  pos := by simp only [World.stopAll, Array.size_map]; exact hp.pos
  registered := hp.registered
  pinned c k hk := by simp only [World.stopAll, Array.size_map]; exact hp.pinned c k hk
  queued k cmd c hc hcx := by
    rw [World.queue_stopAll] at hc
    rcases List.mem_append.mp hc with hc | hc
    · exact hp.queued k cmd c hc hcx
    · split at hc
      · rw [List.mem_singleton] at hc
        subst hc
        cases hcx
      · cases hc
  sites := hp.sites
  runQueue k t ht := by
    rw [World.runQueue_stopAll] at ht
    exact hp.runQueue k t ht

theorem ghost (hp : Placed ⟨w, g⟩) {g' : Ghost} (h : g'.pin = g.pin) : Placed ⟨w, g'⟩ where
  size := hp.size
  pos := hp.pos
  registered c k hk := h ▸ hp.registered c k hk
  pinned c k hk := hp.pinned c k (h ▸ hk)
  queued k cmd c hc hcx := h ▸ hp.queued k cmd c hc hcx
  sites t k c ht := h ▸ hp.sites t k c ht
  runQueue := hp.runQueue

variable {k : Nat} {cmd : Command} {rest : List Command}

/-- Worker `k` takes the command at the front of its queue. -/
theorem pop (hp : Placed ⟨w, g⟩) (hq : w.queue k = cmd :: rest) :
    Placed ⟨w.modifyWorker k ({ · with commands := rest }), g⟩ := by
  refine hp.modifyWorker k (fun v hv c hc => ?_) fun v _ t ht => .inl ht
  simp only [World.queue, hv, Option.map_some, Option.getD_some] at hq
  rw [hq]
  exact List.mem_cons_of_mem _ hc

theorem takeFront (hp : Placed ⟨w, g⟩) (hq : w.queue k = cmd :: rest) (c : ContextId) :
    Placed ⟨w.takeFront k c rest, g⟩ :=
  (hp.pop hq).routes (.withRegistry (.bind _ c))

/-- A task built on worker `k` for a context pinned to `k` joins `k`'s local queue. -/
theorem spawned (hp : Placed ⟨w, g⟩) {c : ContextId} (hc : g.pin c = some k) (ph : Phase)
    (f : WorkerStats → WorkerStats) :
    Placed ⟨(({ w with tasks := w.tasks.push { worker := k, ctx := c, phase := ph, queued := true } }).modifyWorker k
      fun v => { v with localQueue := v.localQueue ++ [w.tasks.size] }).count k f, g⟩ := by
  have hsite := World.taskSite_push w { worker := k, ctx := c, phase := ph, queued := true }
  -- the world with the new task, before it is queued
  have h₁ : Placed ⟨{ w with tasks := w.tasks.push { worker := k, ctx := c, phase := ph, queued := true } }, g⟩ := by
    refine ⟨hp.size, hp.pos, hp.registered, hp.pinned, hp.queued, fun t j d ht => ?_, fun j t ht => ?_⟩
    · rw [hsite] at ht
      split at ht
      · cases ht
        exact hc
      · exact hp.sites t j d ht
    · obtain ⟨d, hd⟩ := hp.runQueue j t ht
      refine ⟨d, ?_⟩
      rw [hsite, if_neg]
      · exact hd
      · rintro rfl
        simp [World.taskSite] at hd
  refine (h₁.modifyWorker k (f := fun v => { v with localQueue := v.localQueue ++ [w.tasks.size] })
    (fun v _ cmd h => h) fun v _ t ht => ?_).routes (World.routes_count k f)
  simp only [Worker.runQueue, List.mem_append, List.mem_singleton] at ht
  rcases ht with ((ht | ht) | ht) | ht
  · exact .inl (by simp [Worker.runQueue, ht])
  · exact .inr ⟨c, by rw [hsite, if_pos ht]; rfl⟩
  · exact .inl (by simp [Worker.runQueue, ht])
  · exact .inl (by simp [Worker.runQueue, ht])

theorem startTask (hp : Placed ⟨w, g⟩) {c : ContextId} (hc : g.pin c = some k) :
    ∀ kind, Placed ⟨w.startTask k c kind, g⟩
  | .failing => by
    dsimp only [World.startTask]
    exact hp.routes (World.routes_count k _)
  | .script _ | .connect _ _ | .accept _ => by
    dsimp only [World.startTask]
    exact hp.spawned hc _ _

theorem pin_take (g : Ghost) (k : Nat) : ∀ cmds, (g.take k cmds).pin = g.pin
  | [] => rfl
  | .stop :: _ | .run _ _ :: _ | .spawn _ _ :: _ => rfl

/-- A worker that takes a command runs it where it belongs: a job on its context, a spawn as a
    task of its own, and a stop empties its queues. -/
theorem run (hp : Placed ⟨w, g⟩) (k : Nat) :
    Placed ⟨(World.runCommands idle k 1 w []).2.2, g.take k (w.queue k)⟩ := by
  refine Placed.ghost ?_ (pin_take g k _)
  cases hq : w.queue k with
  | nil => rw [World.runCommands_empty idle hq]; exact hp
  | cons cmd rest =>
    cases cmd with
    | run c job =>
      rw [World.runCommands_run idle hq]
      exact (hp.takeFront hq c).routes (World.routes_runJob k _ job)
    | spawn c kind =>
      rw [World.runCommands_spawn idle hq]
      have hc : g.pin c = some k := hp.queued k (.spawn c kind) c (by rw [hq]; exact List.mem_cons_self) rfl
      exact (hp.takeFront hq c).startTask hc kind
    | stop =>
      rw [World.runCommands_stop idle hq]
      obtain ⟨w', hr, he⟩ := World.stopWorker_eq (w := w.modifyWorker k ({ · with commands := rest })) k
      rw [he]
      exact ((hp.pop hq).routes hr).modifyWorker k (fun v _ cmd h => by simp [Worker.halt] at h)
        fun v _ t ht => by simp [Worker.halt, Worker.runQueue] at ht

theorem step {s t : St} (hp : Placed s) (h : Step s t) : Placed t := by
  cases h with
  | create x hx => exact hp.create x hx
  | run k => exact hp.run k
  | shutdown _ => exact hp.shutdown
  | call h => exact hp.routes h
  | openMailbox => exact Placed.ghost (hp.congr (by rfl) (by rfl) (by rfl)) (by rfl)
  | register _ _ _ _ => exact Placed.ghost (hp.congr (by rfl) (by rfl) (by rfl)) (by rfl)
  | unregister _ _ _ => exact Placed.ghost (hp.congr (by rfl) (by rfl) (by rfl)) (by split <;> rfl)


/-- No step moves a context to another worker. -/
theorem pin_step {s t : St} (hp : Placed s) (h : Step s t) {c : ContextId} {k : Nat}
    (hc : s.ghost.pin c = some k) : t.ghost.pin c = some k := by
  cases h with
  | create x _ => exact hp.pin_create x hc
  | run j => rw [pin_take]; exact hc
  | unregister _ _ _ => split <;> exact hc
  | shutdown _ | call _ | openMailbox | register _ _ _ _ => exact hc

end Placed

theorem Reach.placed {s t : St} (h : Reach s t) (hp : Placed s) : Placed t :=
  Reach.induct Placed (fun hp h => hp.step h) hp h

/-- A pin holds for good. -/
theorem Reach.pin {s t : St} (h : Reach s t) (hp : Placed s) {c : ContextId} {k : Nat}
    (hc : s.ghost.pin c = some k) : t.ghost.pin c = some k := by
  induction h with
  | refl => exact hc
  | step hr hu ih => exact (hr.placed hp).pin_step hu ih

/-- Context affinity in state `s`, where `pin c` is the worker context `c` was given when it was
    created: the registry agrees with the pins and keeps them for good; a job, a future and a
    poll for `c` run on worker `pin c` with `c` current; a callback runs inline exactly when the
    caller is bound to its context in this runtime; a post only queues; and the binding a worker
    makes for a command is taken back after it. -/
structure Affine (s : St) : Prop where
  registered : ∀ c k, s.world.registry.workerOf c = some k → s.ghost.pin c = some k.index
  fixed : ∀ c k t, Reach s t → s.ghost.pin c = some k → t.ghost.pin c = some k
  queued : ∀ k cmd c, cmd ∈ s.world.queue k → cmd.context = some c → s.ghost.pin c = some k
  runs : ∀ k c job rest, s.world.queue k = .run c job :: rest → s.ghost.pin c = some k ∧
    ∀ {ρ : Type} (exec : Exec → Scenario.Op → World → ρ × World),
      World.runCommands exec k 1 s.world [] =
        (false, (s.world.takeFront k c rest).runJob exec k ⟨some k, some c⟩ [] job)
  spawns : ∀ k c kind rest, s.world.queue k = .spawn c kind :: rest → s.ghost.pin c = some k ∧
    ∀ {ρ : Type} (exec : Exec → Scenario.Op → World → ρ × World),
      World.runCommands exec k 1 s.world [] = (false, [], (s.world.takeFront k c rest).startTask k c kind)
  polls : ∀ k t, t ∈ s.world.runQueue k → ∃ task, s.world.tasks[t]? = some task ∧ task.worker = k ∧
    s.ghost.pin task.ctx = some k ∧ (task.gone = false → s.world.pollTask t =
      ((s.world.modifyTask t ({ · with queued := false, polling := true })).advance
        ⟨some k, some task.ctx⟩ t k task.phase).endPoll t)
  inline : ∀ (th : Thread) r c work, s.world.runOn (th.view r) c work =
    if th.binding = some ⟨r, c⟩ then .ok (s.world.perform (th.view r) work) else s.world.post c (.work work)
  posts : ∀ c job w', s.world.post c job = .ok w' →
    ∃ k, s.ghost.pin c = some k ∧ w' = s.world.modifyWorker k (·.push (.run c job))
  guard : ∀ (th : Thread) r c {α : Type} (body : Thread → α × Thread), ∃ th₁ : Thread,
    th₁.view r = { worker := th.workerIn r, ctx := some c } ∧
      (th.guarded r c body).1 = (body th₁).1 ∧ (th.guarded r c body).2.binding = th.binding

theorem context_affinity {s₀ s : St} (h₀ : Start s₀) (hs : Reach s₀ s) : Affine s := by
  have hp : Placed s := hs.placed (.of_start h₀)
  refine ⟨hp.registered, fun c k t ht hc => ht.pin hp hc, hp.queued, fun k c job rest hq => ?_,
    fun k c kind rest hq => ?_, fun k t ht => ?_, fun th r c work => World.runOn_view _ th r c work,
    fun c job w' h => ?_, fun th r c _ body => th.guarded_spec r c body⟩
  · exact ⟨hp.queued k _ c (by rw [hq]; exact List.mem_cons_self) rfl, fun exec => World.runCommands_run exec hq⟩
  · exact ⟨hp.queued k _ c (by rw [hq]; exact List.mem_cons_self) rfl, fun exec => World.runCommands_spawn exec hq⟩
  · -- a task in worker k's run queues belongs to k, and its context is pinned there
    obtain ⟨c, hc⟩ := hp.runQueue k t ht
    obtain ⟨task, htask, hsite⟩ := Option.map_eq_some_iff.mp hc
    cases hsite
    exact ⟨task, htask, rfl, hp.sites t _ _ hc, World.pollTask_of htask⟩
  · obtain ⟨k, hk, rfl⟩ := World.post_ok h
    exact ⟨k.index, hp.registered c k hk, rfl⟩

/-- A job posted from off the workers onto a new context waits on worker 0, the one the context
    was pinned to. -/
theorem job_posted_from_outside_is_affine :
    ∃ s, Reach (St.idle 2) s ∧ s.world.queue 0 = [.run ⟨1⟩ (.work (.record (.run "a")))] ∧ Affine s := by
  let w₁ := ((St.idle 2).world.create {}).2
  let s₁ : St := ⟨w₁, (St.idle 2).ghost.record w₁.registry⟩
  let s₂ : St := ⟨w₁.runOnOrDrop {} ⟨1⟩ (.record (.run "a")), s₁.ghost⟩
  have h₀ : Start (St.idle 2) := start_idle (by decide)
  have hr : Reach (St.idle 2) s₂ :=
    .step (.step (.refl _) (.create {} (fun _ h => by cases h))) (.call (World.routes_runOnOrDrop {} ⟨1⟩ _))
  exact ⟨s₂, hr, rfl, context_affinity h₀ hr⟩

end RuntimeSystem

end Affinity
