import Affinity.Config.Workers
import Affinity.Machine.Pool
import Affinity.Machine.Worker
import Affinity.Net.Lifecycle
/-!
Scenario replies: what each step answers.

A `Reply` is the typed answer of one step: `ok`, an error of the library (`failed`), a step the
script may not run (`refused`, with the reason), or one of the result shapes below. `ConnView`
is what a script sees of a connection.
-/

namespace Affinity.Scenario

/-- What a script sees of a connection. -/
structure ConnView where
  id : Nat
  owner : ContextId
  state : ConnectionState
  keepAlive : Bool
  endpoint : String
  queued : Nat
  queueMax : Nat
  paused : Bool

/-- The answer of a step. -/
inductive Reply where
  | ok
  | failed (e : Error)
  | refused (reason : String)
  | created (ctx : ContextId) (worker : Nat)
  | destroyed (removed : Bool)
  | info (contains : Bool) (worker : Option Nat) (bound : Bool)
  | registry (len workerCount : Nat) (running : Bool)
  | current (ctx runtimeCtx : Option ContextId) (worker : Option Nat)
  | isOn (on : Bool)
  | context (ctx : ContextId)
  | stopped
  | stats (workers : List WorkerStats)
  | workers (len : Nat) (running : Bool) (current : Option Nat)
  | config (c : WorkerConfig)
  | batch (replies : List Reply)
  | mailbox (index : Nat)
  | handler (id : Nat)
  | removed (was : Bool)
  /-- Handler count, and for a given handler whether it is registered and where. -/
  | mailboxInfo (len : Nat) (handler : Option (Bool × Option ContextId))
  | pool (index : Nat) (transport : Option Nat) (endpoint : String) (maxSize : Nat) (keepAlive : Bool)
  | poolClosed
  | poolStats (s : PoolStats) (closed : Bool)
  | transportInfo (attempts peers : Nat) (endpoints : List String)
  | conn (v : ConnView)
  | paused (on : Bool)
  | queueLimit (max : Nat) (full : Bool)
  | written (n : Nat) (error : Option String)
  | read (bytes : ByteArray) (eof : Bool)
  | shut (done : Bool)
  | debug (text : String)
  | probe (index : Nat)
  | hits (n : Nat)
  | probeInfo (observations : List (Option ContextId)) (first : Option ContextId)
      (consistent : Bool) (allOn : Option Bool)
  | server (index : Nat) (ctx : ContextId)
  | listening (ipv4 portNonzero : Bool)
  | serverInfo (ctx : ContextId) (listening hasAddr : Bool) (count : Nat)

end Affinity.Scenario
