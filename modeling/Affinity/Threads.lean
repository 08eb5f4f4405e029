import Affinity.Config.Workers
/-!
Starting worker threads.

A runtime starts one thread per worker, named `<thread name>-<index>`, with the configured stack
size when there is one. Two things can stop a thread from starting:

* a thread name holding a NUL byte cannot be handed to the system: the program panics, naming
  the position of the first NUL and the bytes of the name;
* the system refuses the stack. The guard page is added to the stack's size, and a size whose
  sum overflows the system's 64-bit arithmetic is an invalid argument (error 22); a stack larger
  than the memory the system can commit cannot be reserved, a temporary shortage of resources
  (error 11).

Every worker asks for the same stack, so a refused stack stops the first worker already.
`WorkerConfig.spawnFailure` is the failure of starting one worker, if any.
-/

namespace Affinity

/-- Why a worker thread does not start. -/
inductive SpawnFailure where
  /-- The program panics with this message. -/
  | panic (message : String)
  /-- The system refuses the thread. -/
  | refused (e : IoError)
  deriving DecidableEq, Repr

/-- The guard page the system adds to each stack. -/
def guardSize : Nat := 4096

/-- The largest stack the system commits memory for. -/
def stackCommitLimit : Nat := Nat.pow 2 36

/-- The system's answer to an invalid argument. -/
def invalidArgument : IoError :=
  { kind := .invalidInput, message := some "Invalid argument", code := some 22 }

/-- The system's answer when resources are short. -/
def resourceShortage : IoError :=
  { kind := .wouldBlock, message := some "Resource temporarily unavailable", code := some 11 }

/-- How the system refuses a stack of `size` bytes, if it does. -/
def stackRefusal (size : Nat) : Option IoError :=
  if Nat.pow 2 64 ≤ size + guardSize then some invalidArgument
  else if stackCommitLimit < size then some resourceShortage
  else none

/-- A stack the system can commit is granted. -/
theorem stackRefusal_of_le (size : Nat) (h : size ≤ stackCommitLimit) : stackRefusal size = none := by
  unfold stackRefusal stackCommitLimit guardSize at *
  simp only [Nat.pow_eq] at *
  split
  · omega
  · split
    · omega
    · rfl

/-- The panic message for a thread name holding a NUL byte, if it holds one. -/
def nulPanic (name : String) : Option String :=
  let bytes := name.toUTF8.toList
  (bytes.findIdx? (· == 0)).map fun i =>
    "thread name may not contain interior null bytes: NulError(" ++ toString i ++ ", [" ++
      ", ".intercalate (bytes.map fun b => toString b.toNat) ++ "])"

/-- The failure of starting worker `index` of a runtime with these settings, if any: the name is
    handed over before the stack is asked for. -/
def WorkerConfig.spawnFailure (c : WorkerConfig) (index : Nat) : Option SpawnFailure :=
  match nulPanic (c.threadName ++ "-" ++ toString index) with
  | some m => some (.panic m)
  | none => (c.stackSize.bind stackRefusal).map .refused

/-- Without a stack size and with a name free of NUL bytes, every worker starts. -/
theorem spawnFailure_of_no_stack (c : WorkerConfig) (index : Nat) (h : c.stackSize = none)
    (hn : nulPanic (c.threadName ++ "-" ++ toString index) = none) :
    c.spawnFailure index = none := by
  unfold WorkerConfig.spawnFailure
  rw [hn]
  simp [h]

end Affinity
