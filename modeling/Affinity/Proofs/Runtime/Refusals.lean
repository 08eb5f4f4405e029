import Affinity.Proofs.Pool.Refusals
import Affinity.Proofs.Runtime.Order
import Affinity.Proofs.Runtime.Placement
/-!
Failed dispatch and shutdown.

Work reaches a worker only through `submit`, which refuses everything once the runtime has
stopped. Posting a job, spawning a task or running a callback on a context fails for two causes
only, checked in this order: the context is not live, or the runtime has stopped
(`World.DispatchRefusal`). A failed call gives back an error and no new world, so nothing runs and
nothing is queued: a script's failed `post`, `runOn` or `spawn` leaves the whole world as it was,
and a callback that cannot be posted is dropped with the world unchanged.

`execute` creates a context and posts its job there. The new context is live, so the post fails
only once the runtime has stopped; `execute` then destroys the context again, and the registry
keeps exactly the contexts it had, with only the next id and the round-robin position spent.

Shutting down is idempotent: a script's shutdown on a stopped runtime changes nothing, and on a
running one it stops the runtime, puts one stop behind the queue of every worker still running,
and then waits for the other workers only, never the calling one (`World.settleOthers_turns`).
Under every interleaving of the runtime's threads, once it has stopped it stays stopped, nothing
more is given to any worker (`Reach.stays_stopped`), and no worker is ever given two stops
(`Reach.stops`).

Main statement: `RuntimeSystem.failed_dispatch_leaves_no_trace`.
-/

namespace Affinity

namespace Registry

@[simp] theorem contains_eq_isSome (r : Registry) (c : ContextId) : r.contains c = (r.workerOf c).isSome := by
  simp [contains, workerOf]

/-- A live context is found in the registry. -/
theorem workerOf_of_mem {r : Registry} {a : ContextId × ContextEntry} (ha : a ∈ r.entries) :
    r.workerOf a.1 ≠ none := by
  simp only [workerOf, find?, ne_eq, Option.map_eq_none_iff, List.find?_eq_none, not_forall]
  exact ⟨a, ha, by simp⟩

/-- No live context carries the next id. -/
theorem Numbered.fresh {r : Registry} (hn : r.Numbered) {a : ContextId × ContextEntry} (ha : a ∈ r.entries) :
    a.1 ≠ ⟨r.nextId⟩ := by
  rintro hc
  obtain ⟨k, hk⟩ := Option.ne_none_iff_exists'.1 (workerOf_of_mem ha)
  have := hn a.1 k hk
  rw [hc] at this
  exact Nat.lt_irrefl _ this

/-- Creating a context and destroying it again leaves the live contexts as they were; only the
    next id and the round-robin position move on. -/
theorem destroy_create {r : Registry} (hn : r.Numbered) (caller : Option WorkerId) :
    ((r.create caller).2.destroy (r.create caller).1).2 =
      { r with nextId := r.nextId + 1, nextWorker := (r.create caller).2.nextWorker } := by
  have hkeep : r.entries.filter (·.1 != ⟨r.nextId⟩) = r.entries :=
    List.filter_eq_self.2 fun a ha => by simpa using hn.fresh ha
  cases caller <;> simp [create, insert, destroy, takeWorker, hkeep]

end Registry

namespace World

variable {w w' : World} {ctx : ContextId} {e : Error}

/-- Why work for context `ctx` is turned away, in the order the checks are made. -/
inductive DispatchRefusal (w : World) (ctx : ContextId) : Error → Prop
  /-- The context is not live. -/
  | gone : w.registry.contains ctx = false → DispatchRefusal w ctx (.contextNotFound ctx)
  /-- The runtime has stopped. -/
  | stopped : w.registry.contains ctx = true → w.running = false → DispatchRefusal w ctx .runtimeShutdown

theorem dispatchRefusal_iff :
    w.DispatchRefusal ctx e ↔ (w.registry.contains ctx = false ∧ e = .contextNotFound ctx) ∨
      (w.registry.contains ctx = true ∧ w.running = false ∧ e = .runtimeShutdown) := by
  constructor
  · rintro (h | ⟨h, hr⟩)
    · exact .inl ⟨h, rfl⟩
    · exact .inr ⟨h, hr, rfl⟩
  · rintro (⟨h, rfl⟩ | ⟨h, hr, rfl⟩)
    · exact .gone h
    · exact .stopped h hr

/-- A submission fails exactly once the runtime has stopped. -/
theorem submit_eq_error_iff {k : Nat} {cmd : Command} :
    w.submit k cmd = .error e ↔ w.running = false ∧ e = .runtimeShutdown := by
  unfold submit
  cases w.running <;> simp [@eq_comm _ Error.runtimeShutdown]

/-- A job is posted unless its context is gone or the runtime has stopped. -/
theorem post_eq_error_iff {job : Job} : w.post ctx job = .error e ↔ w.DispatchRefusal ctx e := by
  rw [dispatchRefusal_iff]
  unfold post
  cases hk : w.registry.workerOf ctx <;> simp [hk, submit_eq_error_iff, @eq_comm _ (Error.contextNotFound ctx)]

/-- A task is spawned unless its context is gone or the runtime has stopped. -/
theorem spawnOn_eq_error_iff {task : TaskKind} : w.spawnOn ctx task = .error e ↔ w.DispatchRefusal ctx e := by
  rw [dispatchRefusal_iff]
  unfold spawnOn
  cases hk : w.registry.workerOf ctx <;> simp [hk, submit_eq_error_iff, @eq_comm _ (Error.contextNotFound ctx)]

/-- A callback fails only when it has to be posted, and the post fails. -/
theorem runOn_eq_error_iff {x : Exec} {work : Work} :
    w.runOn x ctx work = .error e ↔ x.ctx ≠ some ctx ∧ w.DispatchRefusal ctx e := by
  unfold runOn
  by_cases hx : x.ctx = some ctx
  · simp [hx]
  · simp [hx, post_eq_error_iff]

/-- A callback that cannot be posted is dropped, and the world is left as it was. -/
theorem runOnOrDrop_of_error {x : Exec} {work : Work} (h : w.runOn x ctx work = .error e) :
    w.runOnOrDrop x ctx work = w := by
  simp [runOnOrDrop, h]

/-- The context `execute` creates is live, on the worker it was placed on, so its job is
    submitted there. -/
theorem post_create (hn : w.registry.Numbered) (x : Exec) (job : Job) :
    (w.create x).2.post (w.create x).1 job =
      (w.create x).2.submit (w.registry.placeFor (x.worker.map (⟨·⟩))).index (.run (w.create x).1 job) := by
  have hc : (w.create x).1 = ⟨w.registry.nextId⟩ := Registry.create_fst _ _
  have hk : (w.create x).2.registry.workerOf (w.create x).1 = some (w.registry.placeFor (x.worker.map (⟨·⟩))) := by
    rw [registry_create, hc, Registry.workerOf_create_eq hn]
    simp
  simp only [post, hk]

/-- `execute` queues its job on a new context while the runtime runs; once it has stopped, the
    job is refused and the new context destroyed again, so that the live contexts and everything
    else stay as they were, with only the next id and the round-robin position spent. -/
theorem execute_cases (hn : w.registry.Numbered) (x : Exec) (job : Job) :
    (w.running = true ∧ w.execute x job = (.ok ⟨w.registry.nextId⟩,
      (w.create x).2.modifyWorker (w.registry.placeFor (x.worker.map (⟨·⟩))).index
        (·.push (.run ⟨w.registry.nextId⟩ job)))) ∨
    (w.running = false ∧ w.execute x job = (.error .runtimeShutdown,
      { w with registry := { w.registry with
          nextId := w.registry.nextId + 1
          nextWorker := (w.registry.create (x.worker.map (⟨·⟩))).2.nextWorker } })) := by
  have hc : (w.create x).1 = ⟨w.registry.nextId⟩ := Registry.create_fst _ _
  have hp := post_create hn x job
  have hd := Registry.destroy_create hn (x.worker.map (⟨·⟩))
  unfold execute
  rcases hcw : w.create x with ⟨c, w₁⟩
  rw [hcw] at hc hp
  dsimp only at hc hp ⊢
  subst hc
  obtain rfl : w₁ = (w.create x).2 := (congrArg Prod.snd hcw).symm
  rw [hp]
  unfold submit
  cases hr : w.running with
  | true => exact .inl ⟨rfl, by simp [create, hr]⟩
  | false =>
    refine .inr ⟨rfl, ?_⟩
    simp only [create, hr, Bool.false_eq_true, if_false]
    rw [← Registry.create_fst w.registry (x.worker.map (⟨·⟩)), hd]

/-- Once the runtime has stopped, routed work queues nothing. -/
theorem Routes.queue_of_stopped (h : w.Routes w') (hrun : w.running = false) (k : Nat) :
    w'.queue k = w.queue k := by
  obtain ⟨more, hq, hnil, -⟩ := h.queued k
  rw [hq, hnil hrun, List.append_nil]

/-- A worker taking a command neither starts nor stops the runtime. -/
theorem running_runCommands (k : Nat) :
    (runCommands RuntimeSystem.idle k 1 w []).2.2.running = w.running := by
  cases hq : w.queue k with
  | nil => rw [runCommands_empty _ hq]
  | cons cmd rest =>
    cases cmd with
    | run c job =>
      rw [runCommands_run _ hq]
      exact (routes_runJob k _ job).running
    | spawn c kind =>
      rw [runCommands_spawn _ hq]
      exact (startTask_frame (w := w.takeFront k c rest) (k := k) c kind).2.2.1
    | stop =>
      rw [runCommands_stop _ hq]
      obtain ⟨w', hr, he⟩ := stopWorker_eq (w := w.modifyWorker k ({ · with commands := rest })) k
      rw [he]
      exact hr.running

/-- Waiting for the other workers turns only workers other than the caller's: the calling
    thread never waits for itself. -/
theorem settleOthers_turns {ρ : Type} (exec : Exec → Scenario.Op → World → ρ × World) (skip : Option Nat)
    (fuel : Nat) (w : World) :
    ∃ ks : List Nat, (∀ k ∈ ks, some k ≠ skip) ∧
      settleOthers exec skip fuel w = ks.foldl (fun w k => (w.turn exec k).2) w := by
  induction fuel generalizing w with
  | zero => exact ⟨[], by simp, rfl⟩
  | succ fuel ih =>
    unfold settleOthers
    cases hp : w.busyWorkers.filter (some · != skip) with
    | nil => exact ⟨[], by simp, rfl⟩
    | cons k _ =>
      -- the worker turned first passed the filter, so it is not the caller's
      have hmem : k ∈ w.busyWorkers.filter (some · != skip) := by
        rw [hp]
        exact List.mem_cons_self
      have hk := (List.mem_filter.1 hmem).2
      obtain ⟨ks, hks, he⟩ := ih (w.turn exec k).2
      refine ⟨k :: ks, ?_, he⟩
      rintro j (_ | ⟨_, hj⟩)
      · simpa using hk
      · exact hks j hj

end World

namespace Scenario

variable {fs : FileStore} {exec : Exec → Op → World → Reply × World} {x : Exec} {w w' : World}
  {n : Nat} {e : Error}

/-- A script's call on a context it knows fails exactly when the call does, and then the world is
    left as it was. -/
theorem finish_onContext_eq_failed_iff {f : World → ContextId → Except Error World} :
    StepM.finish (do let c ← knownContext n; apply (f (← get) c); pure Reply.ok) w = (.failed e, w') ↔
      w' = w ∧ w.known.contains n ∧ f w ⟨n⟩ = .error e := by
  cases hk : w.known.contains n with
  | false => simp [finish_bind_error (run_knownContext_refused hk)]
  | true =>
    simp only [finish_bind_ok (run_knownContext_of hk), finish_bind_ok run_get, finish_apply_eq_failed_iff]
    simp

theorem finish_post_eq_failed_iff {tag : String} :
    (step fs exec x (.post n tag)).finish w = (.failed e, w') ↔
      w' = w ∧ w.known.contains n ∧ w.DispatchRefusal ⟨n⟩ e := by
  simp only [step, finish_onContext_eq_failed_iff, World.post_eq_error_iff]

theorem finish_runOn_eq_failed_iff {tag : String} :
    (step fs exec x (.runOn n tag)).finish w = (.failed e, w') ↔
      w' = w ∧ w.known.contains n ∧ x.ctx ≠ some ⟨n⟩ ∧ w.DispatchRefusal ⟨n⟩ e := by
  simp only [step, finish_onContext_eq_failed_iff, World.runOn_eq_error_iff]

theorem finish_spawn_eq_failed_iff {tag : String} :
    (step fs exec x (.spawn n tag)).finish w = (.failed e, w') ↔
      w' = w ∧ w.known.contains n ∧ w.DispatchRefusal ⟨n⟩ e := by
  simp only [step, finish_onContext_eq_failed_iff, World.spawnOn_eq_error_iff]

/-- A script's shutdown of a stopped runtime changes nothing; on a running one it stops the
    runtime and waits for the other workers. -/
theorem finish_shutdown :
    (step fs exec x .shutdown).finish w =
      (.stopped, if w.running then World.settleOthers exec x.worker settleFuel w.stopAll else w) := by
  simp only [step]
  rw [finish_bind_ok run_get]
  cases w.running <;> rfl

end Scenario

namespace RuntimeSystem

section Frozen

variable {w : World} {g : Ghost}

/-- Once the runtime has stopped, a worker taking a command gives no worker anything new. -/
theorem log_run (hh : Halting ⟨w, g⟩) (hrun : w.running = false) (k j : Nat) :
    St.log ⟨(World.runCommands idle k 1 w []).2.2, g.take k (w.queue k)⟩ j = St.log ⟨w, g⟩ j := by
  cases hq : w.queue k with
  | nil =>
    rw [World.runCommands_empty idle hq]
    rfl
  | cons cmd rest =>
    cases cmd with
    | run c job =>
      rw [World.runCommands_run idle hq]
      exact log_take hh hq (((World.Routes.withRegistry (.bind _ c)).trans
        (World.routes_runJob k _ job)).queue_of_stopped hrun) j
    | spawn c kind =>
      rw [World.runCommands_spawn idle hq]
      obtain ⟨hq', -, -, -⟩ := World.startTask_frame (w := w.takeFront k c rest) (k := k) c kind
      exact log_take hh hq (fun i => (hq' i).trans
        ((World.Routes.withRegistry (w := w.modifyWorker k ({ · with commands := rest })) (.bind _ c)).queue_of_stopped
          hrun i)) j
    | stop =>
      rw [World.runCommands_stop idle hq]
      obtain ⟨w', hr, he⟩ := World.stopWorker_eq (w := w.modifyWorker k ({ · with commands := rest })) k
      rw [he]
      exact log_stop hh hq hr j

end Frozen

/-- Only a shutdown changes whether the runtime runs, and it stops a running one. -/
theorem Step.running_eq {s t : St} (h : Step s t) :
    t.world.running = s.world.running ∨
      (s.world.running = true ∧ t.world = s.world.stopAll ∧ t.ghost = s.ghost) := by
  cases h with
  | run k => exact .inl (World.running_runCommands k)
  | shutdown h => exact .inr ⟨h, rfl, rfl⟩
  | call h => exact .inl h.running
  | create _ _ | openMailbox | register _ _ _ _ | unregister _ _ _ => exact .inl rfl

/-- Once the runtime has stopped, a step keeps it stopped and gives no worker anything more. -/
theorem Halting.frozen {s t : St} (hh : Halting s) (h : Step s t) (hrun : s.world.running = false) :
    t.world.running = false ∧ ∀ k, t.log k = s.log k := by
  cases h with
  | run k => exact ⟨(World.running_runCommands k).trans hrun, log_run hh hrun k⟩
  | shutdown h =>
    rw [hrun] at h
    cases h
  | call h => exact ⟨h.running.trans hrun, fun k => by simp only [St.log, h.queue_of_stopped hrun k]⟩
  | unregister _ _ _ => exact ⟨hrun, fun _ => by split <;> rfl⟩
  | create _ _ | openMailbox | register _ _ _ _ => exact ⟨hrun, fun _ => rfl⟩

/-- A list without a stop, followed by at most one command, holds two stops nowhere. -/
theorem not_two_stops {l m : List Command} (hl : Command.stop ∉ l) (hm : m.length ≤ 1) :
    ¬ List.Sublist [Command.stop, .stop] (l ++ m) := by
  intro h
  obtain ⟨l₁, l₂, he, h₁, h₂⟩ := List.sublist_append_iff.1 h
  cases l₁ with
  | nil =>
    rw [List.nil_append] at he
    subst he
    have := h₂.length_le
    simp only [List.length_cons, List.length_nil] at this
    omega
  | cons a l₁ =>
    obtain ⟨rfl, -⟩ := List.cons.inj he
    exact hl (h₁.subset List.mem_cons_self)

/-- No step gives a worker a second stop: a shutdown gives one to a worker that had none, since
    the runtime was running, and no other step gives any. -/
theorem Halting.stops_step {s t : St} (hh : Halting s) (h : Step s t)
    (hs : ∀ k, ¬ List.Sublist [Command.stop, .stop] (s.log k)) (k : Nat) : ¬ List.Sublist [Command.stop, .stop] (t.log k) := by
  cases hrun : s.world.running with
  | false =>
    rw [(hh.frozen h hrun).2 k]
    exact hs k
  | true =>
    rcases h.running_eq with hr | ⟨-, hw, hg⟩
    · -- the runtime still runs, so no worker has been given a stop
      intro h₂
      have := (hh.step h).stopped k (h₂.subset List.mem_cons_self)
      rw [hr, hrun] at this
      cases this
    · have hno : Command.stop ∉ s.log k := fun hm => by
        have := hh.stopped k hm
        rw [hrun] at this
        cases this
      have hlog : t.log k = s.log k ++ if s.world.alive k then [.stop] else [] := by
        simp only [St.log, hw, hg, World.queue_stopAll, List.append_assoc]
      rw [hlog]
      exact not_two_stops hno (by split <;> simp)

/-- From a stopped runtime, every later state is stopped, and every worker's log is as it was. -/
theorem Reach.stays_stopped {s t : St} (h : Reach s t) (hh : Halting s) (hrun : s.world.running = false) :
    t.world.running = false ∧ ∀ k, t.log k = s.log k := by
  induction h with
  | refl => exact ⟨hrun, fun _ => rfl⟩
  | step hr hu ih =>
    obtain ⟨hrun', hlog⟩ := ih
    obtain ⟨hrun'', hlog'⟩ := (hr.halting hh).frozen hu hrun'
    exact ⟨hrun'', fun k => (hlog' k).trans (hlog k)⟩

/-- Each worker is given one stop at most, whatever the threads do. -/
theorem Reach.stops {s₀ s : St} (h₀ : Start s₀) (hs : Reach s₀ s) (k : Nat) :
    ¬ List.Sublist [Command.stop, .stop] (s.log k) := by
  induction hs generalizing k with
  | refl =>
    -- a runtime just started has given nothing to its workers
    intro h₂
    have := (Halting.of_start h₀).stopped k (h₂.subset List.mem_cons_self)
    rw [h₀.running] at this
    cases this
  | step hr hu ih => exact (hr.halting (.of_start h₀)).stops_step hu ih k

/-- Failed dispatch leaves no trace, in every state of the runtime. Posting a job, spawning a task
    or running a callback fails exactly when the context is gone or the runtime has stopped, and
    then nothing runs and nothing is queued: a callback that cannot be posted is dropped with the
    world unchanged, and a script's failed post, callback or spawn leaves the whole world as it
    was. `execute` either queues its job on a new live context, or, once the runtime has stopped,
    fails and leaves every live context and the rest of the world as they were. A script's
    shutdown changes nothing on a stopped runtime; on a running one it stops the runtime, puts
    one stop behind the commands of every worker still running, and waits for the other workers,
    never turning the caller's. From then on the runtime stays stopped, no worker is given
    anything more, and every submission fails; and no worker is ever given two stops. -/
theorem failed_dispatch_leaves_no_trace {s₀ s : St} (h₀ : Start s₀) (hs : Reach s₀ s) :
    (∀ ctx job e, s.world.post ctx job = .error e ↔ s.world.DispatchRefusal ctx e) ∧
    (∀ ctx task e, s.world.spawnOn ctx task = .error e ↔ s.world.DispatchRefusal ctx e) ∧
    (∀ x ctx work e, s.world.runOn x ctx work = .error e ↔ x.ctx ≠ some ctx ∧ s.world.DispatchRefusal ctx e) ∧
    (∀ x ctx work e, s.world.runOn x ctx work = .error e → s.world.runOnOrDrop x ctx work = s.world) ∧
    (∀ fs exec x n tag e w', (Scenario.step fs exec x (.post n tag)).finish s.world = (.failed e, w') ↔
      w' = s.world ∧ s.world.known.contains n ∧ s.world.DispatchRefusal ⟨n⟩ e) ∧
    (∀ fs exec x n tag e w', (Scenario.step fs exec x (.runOn n tag)).finish s.world = (.failed e, w') ↔
      w' = s.world ∧ s.world.known.contains n ∧ x.ctx ≠ some ⟨n⟩ ∧ s.world.DispatchRefusal ⟨n⟩ e) ∧
    (∀ fs exec x n tag e w', (Scenario.step fs exec x (.spawn n tag)).finish s.world = (.failed e, w') ↔
      w' = s.world ∧ s.world.known.contains n ∧ s.world.DispatchRefusal ⟨n⟩ e) ∧
    (∀ x job,
      (s.world.running = true ∧ s.world.execute x job = (.ok ⟨s.world.registry.nextId⟩,
        (s.world.create x).2.modifyWorker (s.world.registry.placeFor (x.worker.map (⟨·⟩))).index
          (·.push (.run ⟨s.world.registry.nextId⟩ job)))) ∨
      (s.world.running = false ∧ s.world.execute x job = (.error .runtimeShutdown,
        { s.world with registry := { s.world.registry with
            nextId := s.world.registry.nextId + 1
            nextWorker := (s.world.registry.create (x.worker.map (⟨·⟩))).2.nextWorker } }))) ∧
    (∀ fs exec x, (Scenario.step fs exec x .shutdown).finish s.world =
      (.stopped, if s.world.running then World.settleOthers exec x.worker Scenario.settleFuel s.world.stopAll
        else s.world)) ∧
    (∀ {ρ : Type} (exec : Exec → Scenario.Op → World → ρ × World) skip fuel, ∃ ks : List Nat,
      (∀ k ∈ ks, some k ≠ skip) ∧
      World.settleOthers exec skip fuel s.world.stopAll = ks.foldl (fun w k => (w.turn exec k).2) s.world.stopAll) ∧
    (s.world.stopAll.running = false ∧
      ∀ k, s.world.stopAll.queue k = s.world.queue k ++ if s.world.alive k then [.stop] else []) ∧
    (s.world.running = false → ∀ t, Reach s t →
      t.world.running = false ∧ (∀ k, t.log k = s.log k) ∧
        ∀ k cmd, t.world.submit k cmd = .error .runtimeShutdown) ∧
    (∀ k, ¬ List.Sublist [Command.stop, .stop] (s.log k)) := by
  have hh : Halting s := hs.halting (.of_start h₀)
  have hn : s.world.registry.Numbered := (hs.placed (.of_start h₀)).numbered
  refine ⟨fun _ _ _ => World.post_eq_error_iff, fun _ _ _ => World.spawnOn_eq_error_iff,
    fun _ _ _ _ => World.runOn_eq_error_iff, fun _ _ _ _ => World.runOnOrDrop_of_error,
    fun _ _ _ _ _ _ _ => Scenario.finish_post_eq_failed_iff, fun _ _ _ _ _ _ _ => Scenario.finish_runOn_eq_failed_iff,
    fun _ _ _ _ _ _ _ => Scenario.finish_spawn_eq_failed_iff, World.execute_cases hn,
    fun _ _ _ => Scenario.finish_shutdown, fun exec skip fuel => World.settleOthers_turns exec skip fuel _,
    ⟨rfl, World.queue_stopAll s.world⟩, fun hrun t ht => ?_, Reach.stops h₀ hs⟩
  -- once stopped, the runtime stays stopped, so every submission is refused
  obtain ⟨hrun', hlog⟩ := ht.stays_stopped hh hrun
  exact ⟨hrun', hlog, fun k cmd => World.submit_eq_error_iff.2 ⟨hrun', rfl⟩⟩

/-- After a shutdown, a job posted to a live context and a new `execute` are both refused. -/
theorem post_after_shutdown_refused :
    ∃ s, Reach (St.idle 1) s ∧ s.world.running = false ∧
      s.world.post ⟨1⟩ (.work (.record (.run "a"))) = .error .runtimeShutdown ∧
      (s.world.execute {} (.work (.record (.run "b")))).1 = .error .runtimeShutdown := by
  let w₁ := ((St.idle 1).world.create {}).2
  let s₁ : St := ⟨w₁, (St.idle 1).ghost.record w₁.registry⟩
  let s₂ : St := ⟨w₁.stopAll, s₁.ghost⟩
  have hr : Reach (St.idle 1) s₂ :=
    .step (.step (.refl _) (.create {} (fun _ h => by cases h))) (.shutdown rfl)
  obtain ⟨hpost, -, -, -, -, -, -, hexec, -⟩ := failed_dispatch_leaves_no_trace (start_idle (by decide)) hr
  refine ⟨s₂, hr, rfl, (hpost _ _ _).2 (.stopped (by decide) rfl), ?_⟩
  rcases hexec {} (.work (.record (.run "b"))) with ⟨h, -⟩ | ⟨-, h⟩
  · cases h
  · rw [h]

end RuntimeSystem

end Affinity
