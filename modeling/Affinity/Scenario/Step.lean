import Affinity.Net.Client
/-!
Scenario steps: the operations a script runs against a runtime.

A script names contexts by their numbers, and mailboxes, pools, servers and probes by their
index in creation order; connections by the number the scenario gave them (the first one opened
is 1). An `Op` says what to do; a `Step` adds the context it runs on, if any (without one it runs
off the workers). `Op.invalid` stands for a step that could not be read: it answers with its
message and changes nothing.

* `Signals`: which recording handlers a connection gets.
* `PoolTarget`, `PoolSpec`: how a pool is built (in-memory transport or TCP).
* `DebugTarget`: whose debug text a `debug` step shows.
-/

namespace Affinity.Scenario

/-- Which of a connection's five callbacks record events. -/
structure Signals where
  data : Bool := true
  drain : Bool := true
  finish : Bool := true
  closed : Bool := true
  exception : Bool := true
  deriving DecidableEq, Repr

/-- Where a pool's connections go. -/
inductive PoolTarget where
  /-- In-memory pipes, from a new transport (optionally with a connect delay) or a shared one. -/
  | memory (share : Option Nat) (delayMs : Option Nat)
  /-- TCP to the port a server listens on. -/
  | server (index : Nat)
  /-- TCP to a port that was bound and released, so nothing listens there. -/
  | closedPort
  deriving DecidableEq, Repr

/-- How a pool is built. -/
structure PoolSpec where
  target : PoolTarget
  /-- The endpoint of an in-memory pool that is not built through a client. -/
  host : String := "mock"
  port : Nat := 4000
  tls : Bool := false
  maxSize : Nat := 1
  keepAlive : Bool := true
  /-- Whether pool errors are recorded as events. -/
  report : Bool := true
  /-- Client settings, when the pool is built through a client. -/
  client : Option ClientConfig := none
  /-- TLS settings given to a TCP transport built directly. -/
  transportTls : Option TlsConfig := none
  /-- Whether the endpoint of a directly built TCP pool is a TLS endpoint. -/
  tlsEndpoint : Bool := false
  connectTimeoutMs : Option Nat := none
  nodelay : Bool := true
  deriving DecidableEq, Repr

/-- Whose debug text a `debug` step shows. -/
inductive DebugTarget where
  | runtime
  | dispatcher
  | mailbox (index : Nat)
  | pool (index : Nat)
  | poolStats (index : Nat)
  | transport (index : Nat)
  | conn (id : Nat)
  | server (index : Nat)
  | context (id : Nat)
  | handler (id : Nat)
  deriving DecidableEq, Repr

/-- The operations of a scenario. -/
inductive Op where
  | create
  | createRoundRobin
  | destroy (ctx : Nat)
  | info (ctx : Nat)
  | registry
  | current
  | isOn (ctx : Nat)
  | require (name : String)
  | affinity (ctx : Nat)
  | post (ctx : Nat) (tag : String)
  | runOn (ctx : Nat) (tag : String)
  | spawn (ctx : Nat) (tag : String)
  | execute (tag : String)
  | panic (ctx : Nat)
  | spawnPanic (ctx : Nat)
  | shutdown
  | workerStats
  | workersInfo
  | config
  | mark (tag : String)
  | batch (steps : List Op)
  | mailboxNew
  | register (mailbox ctx : Nat)
  | registerCurrent (mailbox : Nat)
  | unregister (mailbox handler : Nat)
  | send (mailbox handler : Nat) (msg : String)
  | mailboxInfo (mailbox : Nat) (handler : Option Nat)
  | poolNew (spec : PoolSpec)
  | failNext (pool n : Nat)
  | acquire (pool : Nat)
  | acquireOn (pool ctx : Nat)
  | release (pool conn : Nat)
  | poolClose (pool : Nat)
  | poolStats (pool : Nat)
  | transportInfo (pool : Nat)
  | connInfo (conn : Nat)
  | write (conn : Nat) (data : ByteArray) (tag : Option String)
  | closeConn (conn : Nat)
  | pause (conn : Nat)
  | resume (conn : Nat)
  | setWriteQueueMax (conn max : Nat)
  | handlers (conn : Nat) (tag : String) (which : Signals)
  | peerWrite (pool peer : Nat) (data : ByteArray)
  | peerRead (pool peer : Nat)
  | peerShutdown (pool peer : Nat)
  | peerDrop (pool peer : Nat)
  | debug (target : DebugTarget)
  | probeNew
  | probeRecord (probe : Nat)
  | probeInfo (probe : Nat) (ctx : Option Nat)
  | serverNew
  | serverHandler (server : Nat) (echo record : Bool)
  | serverTls (server : Nat) (tls : TlsConfig)
  | serverNodelay (server : Nat) (nodelay : Bool)
  | serverListen (server : Nat) (addr : String)
  | serverClose (server : Nat) (tag : String)
  | serverInfo (server : Nat)
  /-- A step that could not be read, with the reason. -/
  | invalid (message : String)

/-- A step: an operation and the context it runs on, if any. -/
structure Step where
  op : Op
  context : Option Nat := none

end Affinity.Scenario
