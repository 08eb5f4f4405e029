import Affinity.Machine.Note
import Affinity.Scenario.Step
/-!
Work, commands and tasks: what a worker runs.

A worker receives `Command`s in order: `run` a `Job` on a context, `spawn` a task on a context,
or `stop`. A job is either a scenario step posted by the script or a `Work` item, a callback
that the library itself posts or runs inline (recording a note, delivering a mailbox message,
answering an acquire request, passing a connection event to its owner, destroying a context).

A `Task` is a spawned future, kept as an explicit state (`Phase`) that a poll advances: a
scripted task that yields once, a pool connect that then drives its connection, or a server's
accept loop. A `Timer` wakes a sleeping task at a deadline of the virtual clock.
-/

namespace Affinity

/-- The owner and handler generation a connection event was issued under. -/
structure Stamp where
  owner : ContextId
  epoch : Nat
  deriving DecidableEq, Repr

/-- Callbacks that run on a context. -/
inductive Work where
  /-- Writes a note. -/
  | record (note : Note)
  /-- A closure that panics. -/
  | fail
  /-- Delivers a message to a mailbox handler, if it is still registered. -/
  | deliver (mailbox handler : Nat) (msg : String)
  /-- Answers an acquire request of a pool with a connection or an error. -/
  | answer (pool : Nat) (result : Except Error Nat)
  /-- Passes received bytes to a connection's data callback. -/
  | connData (conn : Nat) (stamp : Stamp) (bytes : ByteArray)
  /-- Runs a connection's drain or end callback. -/
  | connSignal (conn : Nat) (stamp : Stamp) (kind : Signal)
  /-- Passes an error to a connection's exception callback. -/
  | connError (conn : Nat) (stamp : Stamp) (err : Error)
  /-- Runs a connection's closed callback and drops its callbacks. -/
  | connClosed (conn : Nat) (stamp : Stamp)
  /-- Destroys a context. -/
  | destroy (ctx : ContextId)

/-- What a `run` command executes. -/
inductive Job where
  /-- A scenario step posted by the script; its answer is handed back to the script. -/
  | step (op : Scenario.Op)
  | work (w : Work)

/-- The futures a `spawn` command builds. -/
inductive TaskKind where
  /-- Records a note, yields once, records another. -/
  | script (tag : String)
  /-- A factory that panics instead of building a future. -/
  | failing
  /-- Opens a pool connection, then drives it. -/
  | connect (pool conn : Nat)
  /-- A server's accept loop. -/
  | accept (server : Nat)

/-- Commands, in the order a worker receives them. -/
inductive Command where
  | run (ctx : ContextId) (job : Job)
  | spawn (ctx : ContextId) (task : TaskKind)
  | stop

/-- How far a task has got. -/
inductive Phase where
  | script (tag : String) (yielded : Bool)
  /-- A pool connect; `slept` once its transport's delay has passed. -/
  | connecting (pool conn : Nat) (slept : Bool)
  | driving (conn : Nat)
  | accepting (server : Nat)
  | finished

/-- The first phase of a spawned future. -/
def TaskKind.phase : TaskKind → Phase
  | .script tag => .script tag false
  | .failing => .finished
  | .connect pool id => .connecting pool id false
  | .accept s => .accepting s

/-- A spawned task. -/
structure Task where
  worker : Nat
  ctx : ContextId
  phase : Phase
  /-- Waiting in a run queue. -/
  queued : Bool := false
  /-- Being polled right now. -/
  polling : Bool := false
  /-- Woken while being polled: goes back to the queue when the poll ends. -/
  rewoken : Bool := false
  /-- Dropped, or finished. -/
  gone : Bool := false

/-- A sleeping task's wake-up time. -/
structure Timer where
  deadline : Nat
  seq : Nat
  task : Nat

end Affinity
