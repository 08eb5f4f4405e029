import Affinity.Context.Id
/-!
The context registry: which contexts exist and the worker each is pinned to.

A `Registry` hands out context ids `1, 2, …` in order and never reuses one. `create` pins a new
context to the worker it is called from, or, off the workers, to the next worker in round-robin
order; `createRoundRobin` always takes the next worker. A context becomes `bound` the first time
a worker runs a command for it. Main statements: `workerOf_create` (a new context is found on the
worker it was given) and `len_destroy_le` (destroying never grows the registry).
-/

namespace Affinity

/-- What the registry knows of one context. -/
structure ContextEntry where
  worker : WorkerId
  bound : Bool := false
  deriving DecidableEq, Repr

/-- Live contexts with their workers, the next id and the round-robin position. -/
structure Registry where
  workerCount : Nat
  nextId : Nat := 1
  nextWorker : Nat := 0
  entries : List (ContextId × ContextEntry) := []
  deriving Repr

namespace Registry

/-- The entry of a live context. -/
def find? (r : Registry) (c : ContextId) : Option ContextEntry :=
  (r.entries.find? (·.1 == c)).map (·.2)

/-- Whether a context is live. -/
def contains (r : Registry) (c : ContextId) : Bool := (r.find? c).isSome

/-- The worker a live context is pinned to. -/
def workerOf (r : Registry) (c : ContextId) : Option WorkerId := (r.find? c).map (·.worker)

/-- Whether a worker has run a command for a live context. -/
def isBound (r : Registry) (c : ContextId) : Bool := ((r.find? c).map (·.bound)).getD false

/-- The number of live contexts. -/
def len (r : Registry) : Nat := r.entries.length

/-- The next worker in round-robin order, and the registry with the position advanced. The
    position is a machine word, which wraps around to 0 after `UInt64.size - 1`. -/
def takeWorker (r : Registry) : WorkerId × Registry :=
  (⟨r.nextWorker % max r.workerCount 1⟩, { r with nextWorker := (r.nextWorker + 1) % UInt64.size })

/-- Adds a context pinned to `w`. -/
def insert (r : Registry) (w : WorkerId) : ContextId × Registry :=
  let c : ContextId := ⟨r.nextId⟩
  (c, { r with nextId := r.nextId + 1, entries := r.entries ++ [(c, { worker := w })] })

/-- A new context on the calling worker, or round-robin when called off the workers. -/
def create (r : Registry) (caller : Option WorkerId) : ContextId × Registry :=
  match caller with
  | some w => r.insert w
  | none => let (w, r) := r.takeWorker; r.insert w

/-- A new context on the next worker in round-robin order. -/
def createRoundRobin (r : Registry) : ContextId × Registry :=
  let (w, r) := r.takeWorker
  r.insert w

/-- Removes a context; the flag says whether it was live. -/
def destroy (r : Registry) (c : ContextId) : Bool × Registry :=
  (r.contains c, { r with entries := r.entries.filter (·.1 != c) })

/-- Marks a live context as bound to its worker's thread. -/
def bind (r : Registry) (c : ContextId) : Registry :=
  { r with entries := r.entries.map fun e => if e.1 == c then (e.1, { e.2 with bound := true }) else e }

theorem find?_insert_self (r : Registry) (w : WorkerId) (h : r.find? ⟨r.nextId⟩ = none) :
    (r.insert w).2.find? (r.insert w).1 = some { worker := w } := by
  simp only [find?, insert, Option.map_eq_none_iff] at h ⊢
  rw [List.find?_append, h]
  simp

/-- A context created on a given worker is found there, provided its id was unused. -/
theorem workerOf_create (r : Registry) (w : WorkerId) (h : r.find? ⟨r.nextId⟩ = none) :
    (r.create (some w)).2.workerOf (r.create (some w)).1 = some w := by
  simp [create, workerOf, find?_insert_self r w h]

/-- Destroying a context never grows the registry. -/
theorem len_destroy_le (r : Registry) (c : ContextId) : (r.destroy c).2.len ≤ r.len :=
  List.length_filter_le _ _

end Registry

end Affinity
