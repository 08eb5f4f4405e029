/-!
A count-down latch, as tests use it to wait for callbacks.

The count only goes down and stops at zero. A wait succeeds exactly when the count has reached
zero: every count-down of a script has happened by the time it waits (count-downs from another
thread are joined before their step answers), so a wait that finds the count above zero times
out.

* `Latch.Step`: count down, read the count, wait, or count down `n` times from another thread.
* `Latch.run` answers a script's steps in order.
* `count_run_le`: the count never rises above where it started.
-/

namespace Affinity.Testing

/-- A count-down latch. -/
structure Latch where
  count : Nat
  deriving DecidableEq, Repr

namespace Latch

/-- One step of a latch script. -/
inductive Step where
  | countDown
  | count
  /-- Waits at most this many milliseconds. -/
  | wait (ms : Nat)
  /-- Counts down this many times from another thread, joined before answering. -/
  | countDownTimes (n : Nat)
  deriving DecidableEq, Repr

/-- The answer of a step. -/
inductive Answer where
  | count (n : Nat)
  | released (b : Bool)
  deriving DecidableEq, Repr

/-- Counts down once, stopping at zero. -/
def countDown (l : Latch) : Latch := ⟨l.count - 1⟩

/-- Whether a wait succeeds. -/
def released (l : Latch) : Bool := l.count == 0

/-- Runs one step. -/
def step (l : Latch) : Step → Answer × Latch
  | .countDown => (.count l.countDown.count, l.countDown)
  | .count => (.count l.count, l)
  | .wait _ => (.released l.released, l)
  | .countDownTimes n => (.count (l.count - n), ⟨l.count - n⟩)

/-- Runs a script, answering each step. -/
def run (l : Latch) : List Step → List Answer × Latch
  | [] => ([], l)
  | s :: rest =>
    let (a, l) := l.step s
    let (as, l) := l.run rest
    (a :: as, l)

/-- A step never raises the count. -/
theorem count_step_le (l : Latch) (s : Step) : (l.step s).2.count ≤ l.count := by
  cases s <;> simp [step, countDown]

/-- A script never raises the count. -/
theorem count_run_le (l : Latch) (steps : List Step) : (l.run steps).2.count ≤ l.count := by
  induction steps generalizing l with
  | nil => simp [run]
  | cons s rest ih =>
    simp only [run]
    exact Nat.le_trans (ih _) (count_step_le l s)

end Latch

end Affinity.Testing
