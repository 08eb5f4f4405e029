import Affinity.Net.Client
/-!
Connection pools: admission, leases, waiters and slots.

A `Pool` holds the connections it opened (`live`, each with a `Lease`: held by a context, idle,
or retired), the idle ones in the order they were released (`available`), the contexts waiting
for a connection (`waiters`, first come first served), the number of slots in use (`active`),
whether it is closed, and three counters. The functions here decide; the effects they call for
(open a connection, hand one over, close one) are carried out by the caller.

* `grant`: reuse the oldest idle connection, else open a new one if a slot is free (an older
  waiter goes first), else queue the request.
* `checkIn`: a connection comes back; it is refused if it is not live, is held by another
  context, was already released, or has closed. Otherwise it is retired (pool closed or no
  reuse), handed to the oldest waiter, or kept idle.
* `freeSlot`, `dropFailed`: a connection closed, or a connect failed; the slot goes to the next
  waiter if the pool is open.

Main statement: `grant_active_le` (admission never takes the pool over its size).
-/

namespace Affinity

/-- Who a live connection belongs to. -/
inductive Lease where
  | held (ctx : ContextId)
  | idle
  | retired
  deriving DecidableEq, Repr

/-- The counters and sizes a pool reports. -/
structure PoolStats where
  active : Nat
  available : Nat
  waiting : Nat
  created : Nat
  reused : Nat
  failed : Nat
  deriving DecidableEq, Repr

/-- The debug text of pool counters. -/
def PoolStats.debug (s : PoolStats) : String :=
  "PoolStats \x7b active: " ++ toString s.active ++ ", available: " ++ toString s.available ++
    ", waiting: " ++ toString s.waiting ++ ", created: " ++ toString s.created ++ ", reused: " ++
    toString s.reused ++ ", failed: " ++ toString s.failed ++ " \x7d"

/-- How a pool reaches its endpoint. -/
inductive PoolTransport where
  /-- An in-memory transport, by index. -/
  | memory (index : Nat)
  /-- TCP, with the settings the transport was built with. -/
  | tcp (settings : TcpSettings)

/-- A connection pool. -/
structure Pool where
  endpoint : Endpoint
  config : PoolConfig
  transport : PoolTransport
  /-- Whether errors are recorded as events. -/
  report : Bool := true
  /-- The client settings, when the pool was built through a client. -/
  client : Option ClientConfig := none
  available : List Nat := []
  waiters : List ContextId := []
  live : List (Nat × Lease) := []
  active : Nat := 0
  closed : Bool := false
  created : Nat := 0
  reused : Nat := 0
  failed : Nat := 0

/-- What admission decided. -/
inductive Admission where
  /-- Hand this idle connection to the requester. -/
  | reuse (conn : Nat)
  /-- Open a new connection for this context. -/
  | connect (ctx : ContextId)
  /-- The request waits. -/
  | queued

/-- What a successful check-in decided. -/
inductive CheckIn where
  | handOff (ctx : ContextId)
  | idle
  | close

namespace Pool

/-- The counters and sizes. -/
def stats (p : Pool) : PoolStats :=
  { active := p.active, available := p.available.length, waiting := p.waiters.length,
    created := p.created, reused := p.reused, failed := p.failed }

/-- The lease of a live connection. -/
def leaseOf (p : Pool) (conn : Nat) : Option Lease := (p.live.find? (·.1 == conn)).map (·.2)

/-- Sets the lease of a live connection. -/
def setLease (p : Pool) (conn : Nat) (l : Lease) : Pool :=
  { p with live := p.live.map fun e => if e.1 == conn then (conn, l) else e }

/-- Records a new connection as held by the context it is opened for. -/
def track (p : Pool) (conn : Nat) (ctx : ContextId) : Pool :=
  { p with live := p.live ++ [(conn, .held ctx)] }

/-- Decides an acquire request from a live context. -/
def grant (p : Pool) (ctx : ContextId) : Except Error (Admission × Pool) :=
  if p.closed then .error .poolClosed
  else match p.available with
    | c :: rest => .ok (.reuse c, { p.setLease c (.held ctx) with available := rest })
    | [] =>
      if p.active < p.config.maxSize then
        match p.waiters with
        | w :: ws => .ok (.connect w, { p with active := p.active + 1, waiters := ws ++ [ctx] })
        | [] => .ok (.connect ctx, { p with active := p.active + 1 })
      else .ok (.queued, { p with waiters := p.waiters ++ [ctx] })

/-- Decides the return of a connection once the lease checks have passed. -/
def keepOrRetire (p : Pool) (conn : Nat) (isOpen keepAlive : Bool) : Except Error (CheckIn × Pool) :=
  if !isOpen then .error .connectionClosed
  else if p.closed || !keepAlive then .ok (.close, p.setLease conn .retired)
  else match p.waiters with
    | w :: ws => .ok (.handOff w, { p.setLease conn (.held w) with waiters := ws })
    | [] => .ok (.idle, { p.setLease conn .idle with available := p.available ++ [conn] })

/-- Decides the return of a connection by `caller` (none when the pool recycles it itself). -/
def checkIn (p : Pool) (conn : Nat) (caller : Option ContextId) (isOpen keepAlive : Bool) :
    Except Error (CheckIn × Pool) :=
  match p.leaseOf conn with
  | none => .error (.config ("connection " ++ toString conn ++ " does not belong to the pool for " ++
      p.endpoint.display))
  | some (.held holder) =>
    match caller with
    | some c =>
      if holder ≠ c then .error (.affinityViolation holder (some c))
      else p.keepOrRetire conn isOpen keepAlive
    | none => p.keepOrRetire conn isOpen keepAlive
  | some _ => .error (.config ("connection " ++ toString conn ++ " was already released"))

/-- Gives a free slot to the oldest waiter, if the pool is open and below its size. -/
def nextWaiter (p : Pool) : Option ContextId × Pool :=
  if p.closed || p.active ≥ p.config.maxSize then (none, p)
  else match p.waiters with
    | w :: ws => (some w, { p with waiters := ws, active := p.active + 1 })
    | [] => (none, p)

/-- Forgets a live connection and frees its slot. -/
def forget (p : Pool) (conn : Nat) : Pool :=
  { p with live := p.live.filter (·.1 != conn), active := p.active - 1 }

/-- A live connection closed: its slot is freed and may go to a waiter. -/
def freeSlot (p : Pool) (conn : Nat) : Option ContextId × Pool :=
  if (p.leaseOf conn).isNone then (none, p)
  else
    let p := { p.forget conn with available := p.available.filter (· != conn) }
    p.nextWaiter

/-- A connect failed: the attempt's slot is freed and may go to a waiter. -/
def dropFailed (p : Pool) (conn : Nat) : Option ContextId × Pool :=
  let p := if (p.leaseOf conn).isSome then p.forget conn else p
  let (next, p) := p.nextWaiter
  (next, { p with failed := p.failed + 1 })

/-- Closes the pool: returns the waiters to turn away and the live connections to close. -/
def close (p : Pool) : List ContextId × List Nat × Pool :=
  (p.waiters, p.live.map (·.1), { p with closed := true, available := [], waiters := [] })

/-- The debug text of a pool. -/
def debug (p : Pool) : String :=
  let inner := "ConnectionPool \x7b endpoint: " ++ p.endpoint.debug ++ ", config: " ++
    p.config.debug ++ ", stats: " ++ p.stats.debug ++ " \x7d"
  match p.client with
  | some c => "NetClient \x7b config: " ++ c.debug ++ ", pool: " ++ inner ++ " \x7d"
  | none => inner

/-- Admission never takes a pool over its size. -/
theorem grant_active_le (p : Pool) (ctx : ContextId) (a : Admission) (q : Pool)
    (hp : p.active ≤ p.config.maxSize) (h : p.grant ctx = .ok (a, q)) :
    q.active ≤ q.config.maxSize := by
  unfold grant at h
  split at h
  · cases h
  · split at h
    · cases h; simpa [setLease] using hp
    · split at h
      · split at h <;> (cases h; simp only; omega)
      · cases h; exact hp

end Pool

end Affinity
