import Affinity.Error
import Affinity.Text.Blank
import Affinity.Text.Decimal
import Affinity.Text.Quoted
/-!
Worker configuration: how many workers, how their threads are named, how large their stacks
are.

* `WorkerConfig.validate` refuses a thread name that is blank after trimming, then a stack
  below `minStackSize`.
* `WorkerConfig.ofLookup` reads `STRAND_WORKERS`, `STRAND_THREAD_NAME` and `STRAND_STACK_SIZE`
  in that order through a lookup function, keeps the defaults for absent keys, and validates.
  A number is read from the trimmed value by `Text.readWord`; the error quotes the value as
  given.
-/

namespace Affinity

/-- The smallest stack a worker thread may be given, in bytes. -/
def minStackSize : Nat := 65536

/-- Settings of the worker pool. A worker count of zero means one worker per processor. -/
structure WorkerConfig where
  workers : Nat := 0
  threadName : String := "strand-worker"
  stackSize : Option Nat := none
  deriving DecidableEq, Repr

namespace WorkerConfig

/-- The worker count, when it does not depend on the machine. -/
def effectiveWorkers (c : WorkerConfig) : Option Nat :=
  if c.workers = 0 then none else some c.workers

/-- Checks that the pool can honour the settings. -/
def validate (c : WorkerConfig) : Except Error Unit :=
  if Text.trim c.threadName = "" then .error (.config "thread_name must not be empty")
  else match c.stackSize with
    | some n =>
      if n < minStackSize then
        .error (.config ("stack_size " ++ toString n ++ " is below the minimum of " ++
          toString minStackSize ++ " bytes"))
      else .ok ()
    | none => .ok ()

/-- The variable naming the worker count. -/
def workersKey : String := "STRAND_WORKERS"
/-- The variable naming the thread name prefix. -/
def threadNameKey : String := "STRAND_THREAD_NAME"
/-- The variable naming the stack size. -/
def stackSizeKey : String := "STRAND_STACK_SIZE"

/-- Reads a word from the trimmed value of a variable. -/
def readNumber (key value : String) : Except Error Nat :=
  match Text.readWord (Text.trim value) with
  | some n => .ok n
  | none => .error (.config (key ++ " must be a non-negative integer, got " ++ Text.quote value))

/-- Settings read through a lookup of named variables, then validated. -/
def ofLookup (lookup : String → Option String) : Except Error WorkerConfig := do
  let workers ← match lookup workersKey with
    | some v => readNumber workersKey v
    | none => pure 0
  let threadName := (lookup threadNameKey).getD "strand-worker"
  let stackSize ← match lookup stackSizeKey with
    | some v => some <$> readNumber stackSizeKey v
    | none => pure none
  let c : WorkerConfig := { workers, threadName, stackSize }
  c.validate
  pure c

/-- Settings read through a lookup are valid. -/
theorem validate_of_ofLookup {lookup : String → Option String} {c : WorkerConfig}
    (h : ofLookup lookup = .ok c) : c.validate = .ok () := by
  unfold ofLookup at h
  revert h
  generalize lookup workersKey = a
  generalize lookup stackSizeKey = b
  cases a <;> cases b <;> simp only [bind, Except.bind, pure, Except.pure, Functor.map, Except.map]
  all_goals (repeat' split) <;> intro h <;> cases h
  all_goals simp_all

/-- The debug text of the settings. -/
def debug (c : WorkerConfig) : String :=
  let stack := match c.stackSize with
    | some n => "Some(" ++ toString n ++ ")"
    | none => "None"
  "RuntimeConfig \x7b workers: " ++ toString c.workers ++ ", thread_name: " ++
    Text.quote c.threadName ++ ", stack_size: " ++ stack ++ " \x7d"

end WorkerConfig

end Affinity
