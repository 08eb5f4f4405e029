import Affinity.Config.Workers
import Affinity.Context.Registry
import Affinity.Threads
/-!
A runtime for tests: it runs closures on contexts and hands back their results.

A test runtime starts `workers` workers whose threads are named `<name>-<index>`; settings that
fail validation, or threads the system refuses, stop the test with a panic whose message carries
the error's structural form, and a thread name holding a NUL byte panics as the thread starts. A
closure run on a context sees that context as current and runs on the thread of the context's
worker. Contexts created from outside the runtime go to the workers in turn.

* `TestRuntime.start` validates the settings and starts the threads; `TestRuntime.startFailure`
  is the message of a runtime that cannot start.
* `TestRuntime.runInNewContext` creates a context and runs a closure there that reports the
  current context and the thread's name (`Run`).
* `TestRuntime.runs` does that `n` times.
-/

namespace Affinity.Testing

/-- What a closure run on a new context reported. -/
structure Run where
  ctx : ContextId
  seen : Option ContextId
  thread : String
  deriving DecidableEq, Repr

/-- A started test runtime. -/
structure TestRuntime where
  config : WorkerConfig
  registry : Registry

namespace TestRuntime

/-- The message with which a test stops when its runtime cannot start. -/
def startFailure (e : Error) : String := "failed to start test runtime: " ++ e.debug

/-- Starts a test runtime with the given worker count and thread name, or panics. -/
def start (workers : Nat) (name : String) : Panicking TestRuntime :=
  let config : WorkerConfig := { workers, threadName := name }
  match config.validate with
  | .error e => .error (startFailure e)
  | .ok () =>
    match config.spawnFailure 0 with
    | some (.panic m) => .error m
    | some (.refused e) => .error (startFailure (.io e))
    | none => .ok { config, registry := { workerCount := workers } }

/-- The name of a worker's thread. -/
def threadName (t : TestRuntime) (w : WorkerId) : String :=
  t.config.threadName ++ "-" ++ toString w.index

/-- Creates a context and runs there a closure reporting the current context and thread. -/
def runInNewContext (t : TestRuntime) : Run × TestRuntime :=
  let (c, registry) := t.registry.create none
  let w := (registry.workerOf c).getD ⟨0⟩
  ({ ctx := c, seen := some c, thread := t.threadName w }, { t with registry := registry.bind c })

/-- Runs `n` closures, each on a new context. -/
def runs (t : TestRuntime) : Nat → List Run × TestRuntime
  | 0 => ([], t)
  | n + 1 =>
    let (r, t) := t.runInNewContext
    let (rs, t) := t.runs n
    (r :: rs, t)

/-- Every closure sees the context it was run on. -/
theorem runs_seen (t : TestRuntime) (n : Nat) : ∀ r ∈ (t.runs n).1, r.seen = some r.ctx := by
  induction n generalizing t with
  | zero => simp [runs]
  | succ n ih =>
    intro r hr
    simp only [runs, List.mem_cons] at hr
    rcases hr with rfl | hr
    · rfl
    · exact ih _ r hr

end TestRuntime

end Affinity.Testing
