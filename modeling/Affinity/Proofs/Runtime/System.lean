import Affinity.Proofs.Runtime.Routing
/-!
The runtime under every interleaving of the threads that use it.

A running system is reached from a fresh runtime by atomic steps, each made by the model's own
function for it: a context is created (`World.create`), a worker takes the command at the front
of its queue and runs it (`World.runCommands`), the runtime shuts down (`World.stopAll`), a
mailbox is made, or a handler is registered or unregistered (`Mailbox.registerCurrent`,
`Mailbox.unregister`). Everything else that a worker or any other thread does (posting,
spawning, running a callback inline, sending a message, polling a task, firing a timer,
destroying a context, and the pool's and the connections' work) is one `call` step: any change
that reaches the workers only through the dispatcher (`World.Routes`). A scenario step that a
worker runs is taken as doing nothing by itself (`idle`); what its code does is made of further
steps.

What the world does not keep is kept in a `Ghost`: the worker each context was pinned to when it
was created, the commands each worker took and those it dropped when it stopped, and for each
mailbox the ids it handed out and the handlers whose removal it reported.

`Reach s t`: `t` is reached from `s` by any number of steps. `Start s`: `s` is a runtime just
started. The invariants are proved in `Placement`, `Order` and `Mailboxes`.
-/

namespace Affinity

namespace Registry

/-- The worker a new context goes to: the caller's, or the next in round-robin order. -/
def placeFor (r : Registry) (caller : Option WorkerId) : WorkerId := caller.getD r.takeWorker.1

theorem create_fst (r : Registry) (caller : Option WorkerId) : (r.create caller).1 = ⟨r.nextId⟩ := by
  cases caller <;> rfl

@[simp] theorem nextId_create (r : Registry) (caller : Option WorkerId) :
    (r.create caller).2.nextId = r.nextId + 1 := by
  cases caller <;> rfl

@[simp] theorem workerCount_create (r : Registry) (caller : Option WorkerId) :
    (r.create caller).2.workerCount = r.workerCount := by
  cases caller <;> rfl

theorem workerOf_insert {r : Registry} (h : r.Numbered) (k : WorkerId) (o : ContextId) :
    (r.insert k).2.workerOf o = if o = ⟨r.nextId⟩ then some k else r.workerOf o := by
  simp only [workerOf, find?, insert, List.find?_append]
  split
  · rename_i ho
    subst ho
    -- no live context carries the next id
    have hnone : r.entries.find? (·.1 == ⟨r.nextId⟩) = none := by
      cases hf : r.entries.find? (·.1 == ⟨r.nextId⟩) with
      | none => rfl
      | some e =>
        have := h ⟨r.nextId⟩ e.2.worker (by simp [workerOf, find?, hf])
        simp at this
    simp [hnone]
  · rename_i ho
    cases r.entries.find? (·.1 == o) with
    | some e => rfl
    | none => simp [Ne.symm ho]

/-- A new context takes the next id, on the caller's worker or the next in round-robin order;
    no other context moves. -/
theorem workerOf_create_eq {r : Registry} (h : r.Numbered) (caller : Option WorkerId) (o : ContextId) :
    (r.create caller).2.workerOf o = if o = ⟨r.nextId⟩ then some (r.placeFor caller) else r.workerOf o := by
  cases caller with
  | some k => exact workerOf_insert h k o
  | none => exact workerOf_insert (r := r.takeWorker.2) h _ o

end Registry

namespace Mailbox

theorem contextOf_unregister (m : Mailbox) (h h' : Nat) :
    (m.unregister h).2.contextOf h' = if h' = h then none else m.contextOf h' := by
  simp only [contextOf, unregister, List.find?_filter]
  split
  · rename_i he
    subst he
    simp
  · rename_i he
    have : (fun e : Nat × ContextId => decide ((e.1 != h) = true ∧ (e.1 == h') = true)) = (·.1 == h') := by
      funext e
      by_cases h₁ : e.1 = h'
      · simp [h₁, he]
      · simp [h₁]
    rw [this]

theorem contextOf_register {m : Mailbox} (hb : ∀ e ∈ m.entries, e.1 < m.nextId) (c : ContextId) (h' : Nat) :
    (m.register c).2.contextOf h' = if h' = m.nextId then some c else m.contextOf h' := by
  simp only [contextOf, register, List.find?_append]
  split
  · rename_i he
    subst he
    -- no handler carries the next id yet
    have hnone : m.entries.find? (·.1 == m.nextId) = none := by
      rw [List.find?_eq_none]
      intro e he'
      have := hb e he'
      simp only [beq_iff_eq]
      omega
    simp [hnone]
  · rename_i he
    cases m.entries.find? (·.1 == h') with
    | some e => rfl
    | none => simp [Ne.symm he]

/-- A registration that succeeds is on a live context, and takes the next id. -/
theorem registerCurrent_ok {m m' : Mailbox} {r : Registry} {target : Option ContextId} {h : Nat}
    (hr : m.registerCurrent r target = .ok (h, m')) :
    ∃ c, target = some c ∧ r.contains c = true ∧ h = m.nextId ∧ m' = (m.register c).2 := by
  cases target with
  | none => cases hr
  | some c =>
    simp only [registerCurrent, registerIn] at hr
    split at hr
    · cases hr
      exact ⟨c, rfl, ‹_›, rfl, rfl⟩
    · cases hr

end Mailbox

namespace World

theorem registry_create (w : World) (x : Exec) :
    (w.create x).2.registry = (w.registry.create (x.worker.map (⟨·⟩))).2 := rfl

theorem queue_stopAll (w : World) (k : Nat) :
    w.stopAll.queue k = w.queue k ++ (if w.alive k then [.stop] else []) := by
  cases hw : w.workers[k]? with
  | none => simp [queue, stopAll, alive, hw]
  | some v => by_cases hv : v.alive <;> simp [queue, stopAll, alive, hw, hv, Worker.push]

theorem runQueue_stopAll (w : World) (k : Nat) : w.stopAll.runQueue k = w.runQueue k := by
  simp only [runQueue, stopAll, Array.getElem?_map]
  cases hw : w.workers[k]? with
  | none => rfl
  | some v => by_cases hv : v.alive <;> simp [hv, Worker.push, Worker.runQueue]

theorem alive_stopAll (w : World) (k : Nat) : w.stopAll.alive k = w.alive k := by
  simp only [alive, stopAll, Array.getElem?_map]
  cases hw : w.workers[k]? with
  | none => rfl
  | some v => by_cases hv : v.alive <;> simp [hv, Worker.push]

section Take

variable {ρ : Type} (exec : Exec → Scenario.Op → World → ρ × World) {w : World} {k : Nat}
  {rest : List Command}

/-- A worker whose queue starts with a job binds its context, and runs the job there. -/
theorem runCommands_run {c : ContextId} {job : Job} (hq : w.queue k = .run c job :: rest) :
    runCommands exec k 1 w [] = (false, (w.takeFront k c rest).runJob exec k ⟨some k, some c⟩ [] job) := by
  have hq' : (w.workers[k]?.map (·.commands)).getD [] = .run c job :: rest := hq
  simp only [runCommands, hq', runCommand]
  rfl

/-- A worker whose queue starts with a spawn binds its context and builds the task there. -/
theorem runCommands_spawn {c : ContextId} {kind : TaskKind} (hq : w.queue k = .spawn c kind :: rest) :
    runCommands exec k 1 w [] = (false, [], (w.takeFront k c rest).startTask k c kind) := by
  have hq' : (w.workers[k]?.map (·.commands)).getD [] = .spawn c kind :: rest := hq
  simp only [runCommands, hq', runCommand]
  rfl

/-- A worker whose queue starts with a stop ends. -/
theorem runCommands_stop (hq : w.queue k = .stop :: rest) :
    runCommands exec k 1 w [] = (true, [], (w.modifyWorker k ({ · with commands := rest })).stopWorker k) := by
  have hq' : (w.workers[k]?.map (·.commands)).getD [] = .stop :: rest := hq
  simp only [runCommands, hq', runCommand]
  rfl

/-- A worker with nothing queued does nothing. -/
theorem runCommands_empty (hq : w.queue k = []) : runCommands exec k 1 w [] = (false, [], w) := by
  have hq' : (w.workers[k]?.map (·.commands)).getD [] = [] := hq
  simp only [runCommands, hq']

theorem taskSite_push (w : World) (task : Task) (j : Nat) :
    ({ w with tasks := w.tasks.push task }).taskSite j =
      if j = w.tasks.size then some task.site else w.taskSite j := by
  simp only [taskSite, Array.getElem?_push]
  split <;> rfl

theorem queue_modifyWorker_of {f : Worker → Worker} (hf : ∀ v, (f v).commands = v.commands) (j : Nat) :
    (w.modifyWorker k f).queue j = w.queue j := by
  rw [queue_modifyWorker]
  split
  · rename_i hkj
    subst hkj
    cases hv : w.workers[k]? <;> simp [queue, hv, hf]
  · rfl

theorem alive_modifyWorker_of {f : Worker → Worker} (hf : ∀ v, (f v).alive = v.alive) (j : Nat) :
    (w.modifyWorker k f).alive j = w.alive j := by
  simp only [alive, modifyWorker, Array.getElem?_modify]
  split
  · rename_i hkj
    subst hkj
    cases hv : w.workers[k]? <;> simp [hf]
  · rfl

theorem alive_modifyWorker (f : Worker → Worker) (j : Nat) :
    (w.modifyWorker k f).alive j = if k = j then (w.workers[j]?.map fun v => (f v).alive).getD false else w.alive j := by
  simp only [alive, modifyWorker, Array.getElem?_modify]
  split <;> simp [Option.map_map, Function.comp_def]

/-- Building a task leaves every worker's queue and thread as they were. -/
theorem startTask_frame (c : ContextId) (kind : TaskKind) :
    (∀ j, (w.startTask k c kind).queue j = w.queue j) ∧ (∀ j, (w.startTask k c kind).alive j = w.alive j) ∧
      (w.startTask k c kind).running = w.running ∧ (w.startTask k c kind).workers.size = w.workers.size := by
  cases kind with
  | failing =>
    refine ⟨fun j => ?_, fun j => ?_, rfl, Array.size_modify⟩
    · rw [startTask, count, queue_modifyWorker_of ?_]
      exact fun _ => rfl
    · rw [startTask, count, alive_modifyWorker_of ?_]
      exact fun _ => rfl
  | _ =>
    dsimp only [startTask, count]
    refine ⟨fun j => ?_, fun j => ?_, rfl, by simp⟩
    · rw [queue_modifyWorker_of ?_, queue_modifyWorker_of ?_]
      · rfl
      all_goals exact fun _ => rfl
    · rw [alive_modifyWorker_of ?_, alive_modifyWorker_of ?_]
      · rfl
      all_goals exact fun _ => rfl

end Take

end World

namespace RuntimeSystem

/-- A worker's run of a scenario step, whose effects are left to the other steps. -/
def idle : Exec → Scenario.Op → World → Unit × World := fun _ _ w => ((), w)

/-- What has happened to the runtime, beyond what the world keeps. -/
structure Ghost where
  /-- The worker each context was pinned to when it was created. -/
  pin : ContextId → Option Nat
  /-- The commands each worker has taken, oldest first. -/
  taken : Nat → List Command
  /-- The commands each worker found behind its stop, and dropped. -/
  dropped : Nat → List Command
  /-- The handler ids each mailbox has handed out, oldest first. -/
  issued : Nat → List Nat
  /-- The handlers of each mailbox whose unregistering reported a removal, oldest first. -/
  removed : Nat → List Nat

/-- A world, and what has happened to the runtime in it. -/
structure St where
  world : World
  ghost : Ghost

namespace Ghost

/-- Remembers the worker of every context registry `r` holds. -/
def record (g : Ghost) (r : Registry) : Ghost :=
  { g with pin := fun c => ((r.workerOf c).map (·.index)).or (g.pin c) }

/-- Worker `k` takes the front of its queue `cmds`; behind a stop, the rest is dropped. -/
def take (g : Ghost) (k : Nat) : List Command → Ghost
  | [] => g
  | .stop :: rest =>
    { g with taken := Function.update g.taken k (g.taken k ++ [.stop]),
             dropped := Function.update g.dropped k rest }
  | cmd :: _ => { g with taken := Function.update g.taken k (g.taken k ++ [cmd]) }

/-- Mailbox `mb` is new: it has handed out no id and removed no handler. -/
def fresh (g : Ghost) (mb : Nat) : Ghost :=
  { g with issued := Function.update g.issued mb [], removed := Function.update g.removed mb [] }

/-- Mailbox `mb` hands out id `h`. -/
def issue (g : Ghost) (mb h : Nat) : Ghost :=
  { g with issued := Function.update g.issued mb (g.issued mb ++ [h]) }

/-- Mailbox `mb` reports the removal of handler `h`. -/
def remove (g : Ghost) (mb h : Nat) : Ghost :=
  { g with removed := Function.update g.removed mb (g.removed mb ++ [h]) }

theorem issued_take (g : Ghost) (k : Nat) : ∀ cmds, (g.take k cmds).issued = g.issued
  | [] | .stop :: _ | .run _ _ :: _ | .spawn _ _ :: _ => rfl

theorem removed_take (g : Ghost) (k : Nat) : ∀ cmds, (g.take k cmds).removed = g.removed
  | [] | .stop :: _ | .run _ _ :: _ | .spawn _ _ :: _ => rfl

end Ghost

/-- One atomic step of the runtime or of a thread that uses it. -/
inductive Step : St → St → Prop where
  /-- Code running as `x` creates a context: on its own worker, or round-robin off the workers. -/
  | create {w : World} {g : Ghost} (x : Exec) (hx : ∀ k, x.worker = some k → k < w.workers.size) :
      Step ⟨w, g⟩ ⟨(w.create x).2, g.record (w.create x).2.registry⟩
  /-- Worker `k` takes the command at the front of its queue and runs it. -/
  | run {w : World} {g : Ghost} (k : Nat) :
      Step ⟨w, g⟩ ⟨(World.runCommands idle k 1 w []).2.2, g.take k (w.queue k)⟩
  /-- The runtime shuts down. -/
  | shutdown {w : World} {g : Ghost} (h : w.running = true) : Step ⟨w, g⟩ ⟨w.stopAll, g⟩
  /-- A worker polls a task, a timer fires, a context is destroyed, or code anywhere posts,
      spawns, runs a callback or sends a message: work that reaches the workers only through the
      dispatcher. -/
  | call {w w' : World} {g : Ghost} (h : w.Routes w') : Step ⟨w, g⟩ ⟨w', g⟩
  /-- A mailbox is made. -/
  | openMailbox {w : World} {g : Ghost} :
      Step ⟨w, g⟩ ⟨{ w with mailboxes := w.mailboxes.push {} }, g.fresh w.mailboxes.size⟩
  /-- A handler is registered on a context, the one named or the caller's current one. -/
  | register {w : World} {g : Ghost} {m m' : Mailbox} {h : Nat} (mb : Nat) (target : Option ContextId)
      (hm : w.mailboxes[mb]? = some m) (hr : m.registerCurrent w.registry target = .ok (h, m')) :
      Step ⟨w, g⟩ ⟨w.modifyMailbox mb fun _ => m', g.issue mb h⟩
  /-- A handler is unregistered. -/
  | unregister {w : World} {g : Ghost} {m : Mailbox} (mb h : Nat) (hm : w.mailboxes[mb]? = some m) :
      Step ⟨w, g⟩ ⟨w.modifyMailbox mb fun _ => (m.unregister h).2,
        if (m.unregister h).1 then g.remove mb h else g⟩

/-- The states reached from `s` by any number of steps. -/
inductive Reach : St → St → Prop where
  | refl (s : St) : Reach s s
  | step {s t u : St} : Reach s t → Step t u → Reach s u

theorem Reach.induct (P : St → Prop) (hstep : ∀ {t u : St}, P t → Step t u → P u) {s t : St} (hs : P s)
    (h : Reach s t) : P t := by
  induction h with
  | refl => exact hs
  | step _ hu ih => exact hstep ih hu

theorem Reach.trans {s t u : St} (h₁ : Reach s t) (h₂ : Reach t u) : Reach s u := by
  induction h₂ with
  | refl => exact h₁
  | step _ hu ih => exact .step ih hu

/-- A runtime just started: its workers run, idle and with nothing queued; there is no task and
    no mailbox; its contexts are numbered below the next id and pinned to workers that exist;
    the ghost knows their pins and nothing else has happened. -/
structure Start (s : St) : Prop where
  running : s.world.running = true
  workers : s.world.workers.size = s.world.registry.workerCount
  pos : 0 < s.world.workers.size
  idle : ∀ (k : Nat) (v : Worker), s.world.workers[k]? = some v → v.commands = [] ∧ v.runQueue = [] ∧ v.alive = true
  tasks : s.world.tasks.size = 0
  mailboxes : s.world.mailboxes.size = 0
  numbered : s.world.registry.Numbered
  placed : ∀ c k, s.world.registry.workerOf c = some k → k.index < s.world.workers.size
  pin : ∀ c, s.ghost.pin c = (s.world.registry.workerOf c).map (·.index)
  taken : ∀ k, s.ghost.taken k = []
  dropped : ∀ k, s.ghost.dropped k = []

/-- A runtime of `n` idle workers and no context, with nothing recorded. -/
def St.idle (n : Nat) : St :=
  ⟨{ config := { workers := n }, registry := { workerCount := n }, workers := Array.replicate n {} },
    ⟨fun _ => none, fun _ => [], fun _ => [], fun _ => [], fun _ => []⟩⟩

theorem start_idle {n : Nat} (h : 0 < n) : Start (St.idle n) where
  running := rfl
  workers := by simp [St.idle]
  pos := by simpa [St.idle] using h
  idle k v hv := by
    simp only [St.idle, Array.getElem?_replicate] at hv
    split at hv
    · cases hv
      exact ⟨rfl, rfl, rfl⟩
    · cases hv
  tasks := rfl
  mailboxes := rfl
  numbered c k hk := by simp [St.idle, Registry.workerOf, Registry.find?] at hk
  placed c k hk := by simp [St.idle, Registry.workerOf, Registry.find?] at hk
  pin c := by simp [St.idle, Registry.workerOf, Registry.find?]
  taken _ := rfl
  dropped _ := rfl

end RuntimeSystem

end Affinity
