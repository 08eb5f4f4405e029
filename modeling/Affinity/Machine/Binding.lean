import Affinity.Machine.World
/-!
What a thread has bound, across runtimes.

Several runtimes may share a process, and their context numbers overlap. While a worker runs a
command or polls a task, the pair (runtime, context) is bound to its thread, and what was bound
before is put back afterwards (a `ContextGuard`). A runtime reads only its own binding: on a
thread bound to another runtime's context it sees no current context, whatever the number. The
same holds of the worker a thread is.

`Thread.view r` is where runtime `r` sees the thread run, the `Exec` its code runs under there.
`Thread.guarded` runs a body with a context bound and puts the thread's binding back.
-/

namespace Affinity

/-- The identity of one runtime of the process. -/
structure RuntimeId where
  val : Nat
  deriving DecidableEq, Repr

/-- A context of a runtime, bound to a thread. -/
structure Binding where
  runtime : RuntimeId
  ctx : ContextId
  deriving DecidableEq, Repr

/-- The state a thread keeps for the runtimes: its binding, and the worker it is, if any. -/
structure Thread where
  binding : Option Binding := none
  worker : Option (RuntimeId × Nat) := none
  deriving DecidableEq, Repr

namespace Thread

/-- The context of runtime `r` bound to the thread. -/
def current (t : Thread) (r : RuntimeId) : Option ContextId :=
  match t.binding with
  | some b => if b.runtime = r then some b.ctx else none
  | none => none

/-- The worker of runtime `r` that the thread is. -/
def workerIn (t : Thread) (r : RuntimeId) : Option Nat :=
  match t.worker with
  | some (owner, k) => if owner = r then some k else none
  | none => none

/-- Where runtime `r` sees the thread run. -/
def view (t : Thread) (r : RuntimeId) : Exec := { worker := t.workerIn r, ctx := t.current r }

/-- The thread of worker `k` of runtime `r`, between commands. -/
def ofWorker (r : RuntimeId) (k : Nat) : Thread := { worker := some (r, k) }

/-- Runs `body` with context `c` of runtime `r` bound, then puts back the binding the thread had
    before, whatever the body bound meanwhile. -/
def guarded {α : Type} (t : Thread) (r : RuntimeId) (c : ContextId) (body : Thread → α × Thread) :
    α × Thread :=
  let (a, t') := body { t with binding := some ⟨r, c⟩ }
  (a, { t' with binding := t.binding })

theorem current_eq_some (t : Thread) (r : RuntimeId) (c : ContextId) :
    t.current r = some c ↔ t.binding = some ⟨r, c⟩ := by
  unfold current
  cases hb : t.binding with
  | none => simp
  | some b =>
    by_cases hr : b.runtime = r
    · cases b
      simp_all
    · simp only [hr, if_false, reduceCtorEq, false_iff, Option.some.injEq]
      rintro rfl
      exact hr rfl

/-- A thread with context `c` of runtime `r` bound sees it current there. -/
theorem view_bind (t : Thread) (r : RuntimeId) (c : ContextId) :
    ({ t with binding := some ⟨r, c⟩ } : Thread).view r = { worker := t.workerIn r, ctx := some c } := by
  simp [view, current, workerIn]

theorem workerIn_ofWorker (r : RuntimeId) (k : Nat) : (ofWorker r k).workerIn r = some k := by
  simp [ofWorker, workerIn]

/-- A guarded body runs where `r` sees context `c` current on the same worker, and the thread
    comes back with the binding it had, whatever the body bound (nested guards included). -/
theorem guarded_spec {α : Type} (t : Thread) (r : RuntimeId) (c : ContextId) (body : Thread → α × Thread) :
    ∃ t₁ : Thread, t₁.view r = { worker := t.workerIn r, ctx := some c } ∧
      (t.guarded r c body).1 = (body t₁).1 ∧ (t.guarded r c body).2.binding = t.binding :=
  ⟨{ t with binding := some ⟨r, c⟩ }, view_bind t r c, rfl, rfl⟩

end Thread

end Affinity
