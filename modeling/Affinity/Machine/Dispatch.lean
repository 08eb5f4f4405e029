import Affinity.Machine.World
/-!
Dispatch: putting work on contexts and waking tasks.

* `post` queues a `run` command on the worker of a live context; it fails with
  `contextNotFound` for a context that is gone and with `runtimeShutdown` once the workers have
  stopped. `spawnOn` does the same for a `spawn` command.
* `runOn` runs a callback at once when the caller is already on the target context (even one
  that has since been destroyed), and posts it otherwise.
* `wake` puts a task back in a run queue: the local one when woken from the task's own worker,
  the remote one otherwise; a task already queued stays where it is, and a task woken while it
  is being polled is queued again when the poll ends.
* `perform` runs a callback: connection events whose stamp is out of date are dropped, and a
  closed notice that finds a new owner follows it there.
* `create` pins a new context to the calling worker (round-robin off the workers); `execute`
  runs a job on a new context; `send` delivers a mailbox message on its handler's context;
  `stopAll` stops the runtime.

Main statement: `runOn_inline` (work for the current context runs at once).
-/

namespace Affinity

namespace World

/-- Puts a task back in a run queue, woken from `x`. -/
def wake (w : World) (x : Exec) (t : Nat) : World :=
  match w.tasks[t]? with
  | none => w
  | some task =>
    if task.gone || task.queued then w
    else if task.polling then w.modifyTask t ({ · with rewoken := true })
    else
      let w := w.modifyTask t ({ · with queued := true })
      if x.worker == some task.worker then
        w.modifyWorker task.worker fun k => { k with localQueue := k.localQueue ++ [t] }
      else w.modifyWorker task.worker fun k => { k with remoteQueue := k.remoteQueue ++ [t] }

/-- Queues a command on a worker, unless the workers have stopped. -/
def submit (w : World) (worker : Nat) (c : Command) : Except Error World :=
  if w.running then .ok (w.modifyWorker worker (·.push c)) else .error .runtimeShutdown

/-- Creates a context: on the calling worker, or round-robin when called off the workers. -/
def create (w : World) (x : Exec) : ContextId × World :=
  let (c, registry) := w.registry.create (x.worker.map (⟨·⟩))
  (c, { w with registry })

/-- Queues a job on a live context's worker. -/
def post (w : World) (ctx : ContextId) (job : Job) : Except Error World :=
  match w.registry.workerOf ctx with
  | none => .error (.contextNotFound ctx)
  | some k => w.submit k.index (.run ctx job)

/-- Queues a task on a live context's worker. -/
def spawnOn (w : World) (ctx : ContextId) (task : TaskKind) : Except Error World :=
  match w.registry.workerOf ctx with
  | none => .error (.contextNotFound ctx)
  | some k => w.submit k.index (.spawn ctx task)

/-- Runs a connection's closed callback and drops all its callbacks. -/
def closedNow (w : World) (x : Exec) (id : Nat) : World :=
  match w.conn? id with
  | none => w
  | some c =>
    let w := w.modifyConn id fun c => { c with handlers := {} }
    match c.handlers.closed with
    | some tag => w.note x (.signal .closed id tag)
    | none => w

/-- Sends a connection's closed notice to its current owner; false if it cannot be sent. -/
def notifyClosed (w : World) (x : Exec) (id : Nat) : Bool × World :=
  match w.conn? id with
  | none => (false, w)
  | some c =>
    let s := c.stamp
    if x.ctx == some s.owner then (true, w.closedNow x id)
    else match w.post s.owner (.work (.connClosed id s)) with
      | .ok w => (true, w)
      | .error _ => (false, w)

/-- Whether a connection still carries a stamp. -/
def stamped (w : World) (id : Nat) (s : Stamp) : Bool :=
  match w.conn? id with
  | some c => c.stamp == s
  | none => false

/-- Runs a callback on `x`. -/
def perform (w : World) (x : Exec) : Work → World
  | .record n => w.note x n
  | .fail => w
  | .deliver mb h msg =>
    match w.mailboxes[mb]? with
    | some m => if (m.contextOf h).isSome then w.note x (.message mb h msg) else w
    | none => w
  | .answer pool (.ok id) =>
    let w := w.note x (.acquired pool id)
    if w.delivered.contains id then w else { w with delivered := w.delivered ++ [id] }
  | .answer pool (.error e) => w.note x (.acquireFailed pool e)
  | .connData id s bytes =>
    if w.stamped id s then
      match (w.conn? id).bind (·.handlers.data) with
      | some tag => w.note x (.data id tag bytes)
      | none => w
    else w
  | .connSignal id s kind =>
    if w.stamped id s then
      let tag := (w.conn? id).bind fun c => match kind with
        | .drain => c.handlers.drain
        | .finish => c.handlers.finish
        | .closed => c.handlers.closed
      match tag with
      | some tag => w.note x (.signal kind id tag)
      | none => w
    else w
  | .connError id s e =>
    if w.stamped id s then
      match (w.conn? id).bind (·.handlers.exception) with
      | some tag => w.note x (.exception id tag e)
      | none => w
    else w
  | .connClosed id s =>
    if w.stamped id s then w.closedNow x id
    else
      let (sent, w) := w.notifyClosed x id
      if sent then w else w.modifyConn id (·.clearHandlers)
  | .destroy ctx => { w with registry := (w.registry.destroy ctx).2 }

/-- Runs a callback now if `x` is on the context, else posts it there. -/
def runOn (w : World) (x : Exec) (ctx : ContextId) (work : Work) : Except Error World :=
  if x.ctx == some ctx then .ok (w.perform x work) else w.post ctx (.work work)

/-- Runs a callback on a context, forgetting a failure to post it. -/
def runOnOrDrop (w : World) (x : Exec) (ctx : ContextId) (work : Work) : World :=
  match w.runOn x ctx work with
  | .ok w => w
  | .error _ => w

/-- Runs a job on a new context; the context is destroyed again when the job cannot be queued. -/
def execute (w : World) (x : Exec) (job : Job) : Except Error ContextId × World :=
  let (c, w) := w.create x
  match w.post c job with
  | .ok w => (.ok c, w)
  | .error e => (.error e, { w with registry := (w.registry.destroy c).2 })

/-- Sends a message to a mailbox handler on the handler's context; a message for an id that no
    handler has, or that cannot reach the handler's context, is dropped. -/
def send (w : World) (x : Exec) (mb h : Nat) (msg : String) : World :=
  match (w.mailboxes[mb]?).bind (·.contextOf h) with
  | some c => w.runOnOrDrop x c (.deliver mb h msg)
  | none => w

/-- Stops the runtime: later submissions fail, and each worker still running finds `stop` behind
    the commands it was given. -/
def stopAll (w : World) : World :=
  { w with running := false, workers := w.workers.map fun k => if k.alive then k.push .stop else k }

theorem runOn_inline (w : World) (x : Exec) (ctx : ContextId) (work : Work) (h : x.ctx = some ctx) :
    w.runOn x ctx work = .ok (w.perform x work) := by
  simp [runOn, h]

end World

end Affinity
