import Affinity.Machine.Driver
/-!
Worker turns and settling.

A turn of a worker takes up to `commandBudget` commands, then polls up to `tasksPerTurn` tasks,
then puts its deferred tasks back in its local queue, the last deferred first. A `run` command
binds its context to the worker, runs its job and counts it as executed (a panicking job counts
as panicked as well); a `spawn` command binds its context and counts a spawned task, unless its
factory panics. A `stop` command ends the worker: the commands after it and all its tasks are
dropped, which drops the connection drivers and pipe ends they hold.

Scenario steps posted to a context are run by the function `exec` that the caller supplies,
and their answers are collected in order.

`settle` runs turns of busy workers, oldest-ready first (a worker that was given work during a
turn goes before the worker whose turn it was), and when none is busy fires the timers
with the earliest deadline, until nothing is left to do or the fuel runs out. `settleOthers`
runs every worker but one until it has stopped: what a shutdown waits for.
-/

namespace Affinity

namespace World

variable {ρ : Type}

/-- Marks a worker as having work. -/
def markReady (k : Nat) (ready : List Nat) : List Nat :=
  if ready.contains k then ready else ready ++ [k]

/-- Drops a task: what it holds goes away with it. -/
def dropTask (w : World) (t : Nat) : World :=
  match w.tasks[t]? with
  | none => w
  | some task =>
    if task.gone then w
    else
      let w := w.modifyTask t ({ · with gone := true, queued := false })
      let w := { w with timers := w.timers.filter (·.task != t) }
      match task.phase with
      | .connecting _ id _ => w.modifyConn id ({ · with driverHeld := false, outbound := [] })
      | .driving id =>
        let w := w.modifyConn id ({ · with driverHeld := false, outbound := [] })
        match (w.conn? id).bind (·.duplex) with
        | some d => w.modifyDuplex d (·.dropLocal)
        | none => w
      | _ => w

/-- Drops a command that will never run: a connect factory takes its driver with it. -/
def dropCommand (w : World) : Command → World
  | .spawn _ (.connect _ id) => w.modifyConn id ({ · with driverHeld := false, outbound := [] })
  | _ => w

/-- Ends a worker's thread. -/
def stopWorker (w : World) (k : Nat) : World :=
  let pending := (w.workers[k]?.map (·.commands)).getD []
  let w := pending.foldl dropCommand w
  let w := (List.range w.tasks.size).foldl (fun w t =>
    match w.tasks[t]? with
    | some task => if task.worker == k then w.dropTask t else w
    | none => w) w
  w.modifyWorker k fun v =>
    { v with alive := false, commands := [], localQueue := [], remoteQueue := [], deferred := [] }

/-- Runs a job as `x` on worker `k` and counts it there; a panicking job counts as panicked as
    well. -/
def runJob (exec : Exec → Scenario.Op → World → ρ × World) (k : Nat) (x : Exec) (w : World)
    (acc : List ρ) : Job → List ρ × World
  | .step op =>
    let (r, w) := exec x op w
    (acc ++ [r], w.count k fun s => { s with executed := s.executed + 1 })
  | .work .fail =>
    (acc, w.count k fun s => { s with executed := s.executed + 1, panicked := s.panicked + 1 })
  | .work work =>
    (acc, (w.perform x work).count k fun s => { s with executed := s.executed + 1 })

/-- Builds a task's future on worker `k`, for context `ctx`, and puts the task in the worker's
    local queue; a panicking factory counts as a panic. -/
def startTask (w : World) (k : Nat) (ctx : ContextId) : TaskKind → World
  | .failing => w.count k fun s => { s with panicked := s.panicked + 1 }
  | kind =>
    let t := w.tasks.size
    let w := { w with tasks := w.tasks.push { worker := k, ctx, phase := kind.phase, queued := true } }
    let w := w.modifyWorker k fun v => { v with localQueue := v.localQueue ++ [t] }
    w.count k fun s => { s with spawned := s.spawned + 1 }

/-- Runs one command on worker `k`; true when the worker stops. -/
def runCommand (exec : Exec → Scenario.Op → World → ρ × World) (k : Nat) (w : World)
    (acc : List ρ) : Command → Bool × List ρ × World
  | .run ctx job =>
    let w := { w with registry := w.registry.bind ctx }
    (false, w.runJob exec k { worker := some k, ctx := some ctx } acc job)
  | .spawn ctx kind => (false, acc, { w with registry := w.registry.bind ctx }.startTask k ctx kind)
  | .stop => (true, acc, w)

/-- Takes and runs up to `budget` commands of worker `k`; true when the worker stopped. -/
def runCommands (exec : Exec → Scenario.Op → World → ρ × World) (k : Nat) :
    Nat → World → List ρ → Bool × List ρ × World
  | 0, w, acc => (false, acc, w)
  | budget + 1, w, acc =>
    match (w.workers[k]?.map (·.commands)).getD [] with
    | [] => (false, acc, w)
    | c :: rest =>
      let w := w.modifyWorker k ({ · with commands := rest })
      let (stop, acc, w) := runCommand exec k w acc c
      if stop then (true, acc, w.stopWorker k) else runCommands exec k budget w acc

/-- Whether a server has stopped listening. -/
def acceptStopped (w : World) (s : Nat) : Bool :=
  match w.servers[s]? with
  | some v => v.listening.isNone
  | none => true

/-- Polls a task's future once, as `x`: a scripted task notes and yields once, a connect task
    asks its transport, a driver runs its loop, an accept loop ends once its server stopped. -/
def advance (w : World) (x : Exec) (t worker : Nat) : Phase → World
  | .script tag false =>
    let w := w.note x (.spawned tag)
    let w := w.modifyTask t ({ · with phase := .script tag true })
    w.modifyWorker worker fun v => { v with deferred := v.deferred ++ [t] }
  | .script tag true => (w.note x (.resumed tag)).modifyTask t ({ · with gone := true, phase := .finished })
  | .connecting pool id slept => w.pollConnect x t pool id slept
  | .driving id => w.driveLoop x t id driveFuel
  | .accepting s =>
    if w.acceptStopped s then w.modifyTask t ({ · with gone := true, phase := .finished }) else w
  | .finished => w.modifyTask t ({ · with gone := true })

/-- Ends a poll: a task woken while it was polled goes back to its worker's local queue. -/
def endPoll (w : World) (t : Nat) : World :=
  match w.tasks[t]? with
  | some task =>
    let w := w.modifyTask t ({ · with polling := false, rewoken := false })
    if task.rewoken && !task.gone then
      (w.modifyTask t ({ · with queued := true })).modifyWorker task.worker fun v =>
        { v with localQueue := v.localQueue ++ [t] }
    else w
  | none => w

/-- Polls one task, on its worker and with its context current. -/
def pollTask (w : World) (t : Nat) : World :=
  match w.tasks[t]? with
  | none => w
  | some task =>
    if task.gone then w
    else
      let x : Exec := { worker := some task.worker, ctx := some task.ctx }
      ((w.modifyTask t ({ · with queued := false, polling := true })).advance x t task.worker task.phase).endPoll t

/-- Polls up to `n` tasks of worker `k`. -/
def runTasks (k : Nat) : Nat → World → World
  | 0, w => w
  | n + 1, w =>
    match w.workers[k]? with
    | none => w
    | some v =>
      if !v.alive then w
      else
        let (t, v) := v.pick
        let w := w.modifyWorker k fun _ => v
        match t with
        | none => w
        | some t => runTasks k n (w.pollTask t)

/-- Ends a turn of worker `k`: the tasks that yielded are woken, the last deferred first. -/
def requeueDeferred (w : World) (k : Nat) : World :=
  let deferred := (w.workers[k]?.map (·.deferred)).getD []
  let w := w.modifyWorker k ({ · with deferred := [] })
  let x : Exec := { worker := some k }
  deferred.reverse.foldl (fun w t => w.wake x t) w

/-- One turn of worker `k`. -/
def turn (exec : Exec → Scenario.Op → World → ρ × World) (k : Nat) (w : World) : List ρ × World :=
  let (stopped, acc, w) := runCommands exec k commandBudget w []
  if stopped then (acc, w)
  else (acc, (runTasks k tasksPerTurn w).requeueDeferred k)

/-- The busy workers, in index order. -/
def busyWorkers (w : World) : List Nat :=
  (List.range w.workers.size).filter fun k => (w.workers[k]?.map (·.busy)).getD false

/-- Fires the timers with the earliest deadline; false when there are none. -/
def fireTimers (w : World) : Bool × World :=
  match w.timers.map (·.deadline) |>.min? with
  | none => (false, w)
  | some d =>
    let due := w.timers.filter (·.deadline == d)
    let w := { w with clock := Nat.max w.clock d, timers := w.timers.filter (·.deadline != d) }
    (true, due.foldl (fun w tm =>
      let k := (w.tasks[tm.task]?.map (·.worker)).getD 0
      w.wake { worker := some k } tm.task) w)

/-- Runs workers until nothing is left to do, firing timers when all are idle. -/
def settle (exec : Exec → Scenario.Op → World → ρ × World) :
    Nat → List Nat → World → List ρ → List ρ × World
  | 0, _, w, acc => (acc, w)
  | fuel + 1, ready, w, acc =>
    let ready := ready.filter fun k => (w.workers[k]?.map (·.busy)).getD false
    let ready := (w.busyWorkers).foldl (fun r k => markReady k r) ready
    match ready with
    | k :: rest =>
      let (rs, w) := w.turn exec k
      let woken := w.busyWorkers.filter fun j => j != k && !rest.contains j
      settle exec fuel (rest ++ woken ++ [k]) w (acc ++ rs)
    | [] =>
      let (fired, w) := w.fireTimers
      if fired then settle exec fuel [] w acc else (acc, w)

/-- Runs every worker but `skip` until it has stopped. -/
def settleOthers (exec : Exec → Scenario.Op → World → ρ × World) (skip : Option Nat) :
    Nat → World → World
  | 0, w => w
  | fuel + 1, w =>
    let pending := w.busyWorkers.filter (some · != skip)
    match pending with
    | k :: _ => settleOthers exec skip fuel (w.turn exec k).2
    | [] => w

end World

end Affinity
