import Affinity.Config.Log
import Affinity.Config.Workers
import Affinity.Threads
/-!
Settings read from the process environment.

An environment is a lookup of named variables. Starting from one yields three results: the
worker settings, the logging settings, and the runtime started from the worker settings. A
runtime validates its settings when it starts and then starts its worker threads, which can
fail (`Threads`), or panic.

* `EnvironmentSettings.read` computes the three results.
* `runtime_of_workers_error` says a runtime fails as reading its settings does.
-/

namespace Affinity

/-- What starting from an environment yields. -/
structure EnvironmentSettings where
  workers : Except Error WorkerConfig
  logging : Except Error LogConfig
  /-- The settings of the runtime started from the environment. -/
  runtime : Panicking (Except Error WorkerConfig)

namespace EnvironmentSettings

/-- Starts a runtime with validated settings: its first worker's thread fails, panics, or every
    worker starts. -/
def startRuntime (c : WorkerConfig) : Panicking (Except Error WorkerConfig) :=
  match c.validate with
  | .error e => .ok (.error e)
  | .ok () =>
    match c.spawnFailure 0 with
    | some (.panic m) => .error m
    | some (.refused e) => .ok (.error (.io e))
    | none => .ok (.ok c)

/-- Reads the settings of an environment and starts a runtime from them. -/
def read (lookup : String → Option String) : EnvironmentSettings :=
  let workers := WorkerConfig.ofLookup lookup
  { workers, logging := LogConfig.ofLookup lookup,
    runtime := match workers with
      | .ok c => startRuntime c
      | .error e => .ok (.error e) }

/-- A runtime started from an environment whose worker settings cannot be read fails with the
    same error. -/
theorem runtime_of_workers_error (lookup : String → Option String) (e : Error)
    (h : (read lookup).workers = .error e) : (read lookup).runtime = .ok (.error e) := by
  simp only [read] at h ⊢
  rw [h]

end EnvironmentSettings

end Affinity
