import Affinity.Machine.Task
/-!
Workers: one thread each, with a command queue and two task queues.

A worker takes commands from its queue in order, at most `commandBudget` per turn, then polls
up to `tasksPerTurn` tasks. Tasks woken on the worker's own thread join the local queue; tasks
woken from elsewhere join the remote queue. Tasks are taken from the local queue first, except
that every `remoteInterval`-th pick looks at the remote queue first. A task that yields is
deferred: deferred tasks rejoin the local queue after the turn, the last deferred first.

`WorkerStats` counts run commands executed, tasks spawned and panics. Main statements:
`push_commands` (a pushed command lands at the end of the queue) and `pick_none` (a worker
with empty task queues picks nothing).
-/

namespace Affinity

/-- The most commands a worker takes in one turn. -/
def commandBudget : Nat := 128

/-- The most tasks a worker polls in one turn. -/
def tasksPerTurn : Nat := 61

/-- Every this many picks, the remote queue is looked at first. -/
def remoteInterval : Nat := 31

/-- Counters of one worker. -/
structure WorkerStats where
  executed : Nat := 0
  spawned : Nat := 0
  panicked : Nat := 0
  deriving DecidableEq, Repr

/-- A worker's queues and counters. -/
structure Worker where
  commands : List Command := []
  localQueue : List Nat := []
  remoteQueue : List Nat := []
  deferred : List Nat := []
  stats : WorkerStats := {}
  picks : Nat := 0
  /-- Whether the worker's thread still runs. -/
  alive : Bool := true

namespace Worker

/-- Appends a command. -/
def push (w : Worker) (c : Command) : Worker := { w with commands := w.commands ++ [c] }

/-- Whether the worker has commands or queued tasks. -/
def busy (w : Worker) : Bool :=
  w.alive && !(w.commands.isEmpty && w.localQueue.isEmpty && w.remoteQueue.isEmpty)

/-- Takes the next task to poll, counting the pick. -/
def pick (w : Worker) : Option Nat × Worker :=
  let w' := { w with picks := w.picks + 1 }
  let fromLocal : Option Nat × Worker := match w.localQueue with
    | t :: rest => (some t, { w' with localQueue := rest })
    | [] => match w.remoteQueue with
      | t :: rest => (some t, { w' with remoteQueue := rest })
      | [] => (none, w')
  if w.picks % remoteInterval = 0 then
    match w.remoteQueue with
    | t :: rest => (some t, { w' with remoteQueue := rest })
    | [] => fromLocal
  else fromLocal

theorem push_commands (w : Worker) (c : Command) : (w.push c).commands = w.commands ++ [c] := rfl

theorem pick_none (w : Worker) (hl : w.localQueue = []) (hr : w.remoteQueue = []) :
    (w.pick).1 = none := by
  unfold pick
  simp only [hl, hr]
  split <;> rfl

end Worker

end Affinity
