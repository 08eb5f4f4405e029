import Affinity.Context.Id
import Affinity.Context.Registry
import Affinity.Net.Endpoint
import Affinity.Tls.Config
/-!
The smaller parts of a running system: in-memory transports, mailboxes, servers and probes.

* `MemoryTransport`: counts connect attempts, refuses as many of the next attempts as it was
  told to (`failuresLeft`; telling it again replaces the number), optionally waits a delay
  before each answer, and keeps the peer end of each successful connect (`peers`, by duplex).
* `Mailbox`: handlers registered on live contexts, with ids from 1 that are never reused.
* `Server`: its context, settings, whether it listens (and on which port), whether it is
  closed, and the connections it accepted.
* `Probe`: the contexts that were current each time it was hit.
-/

namespace Affinity

/-- An in-memory transport. -/
structure MemoryTransport where
  attempts : Nat := 0
  failuresLeft : Nat := 0
  delayMs : Option Nat := none
  endpoints : List Endpoint := []
  /-- The duplex of each successful connect, in order. -/
  peers : List Nat := []

/-- The debug text of an in-memory transport. -/
def MemoryTransport.debug (t : MemoryTransport) : String :=
  "MockTransport \x7b attempts: " ++ toString t.attempts ++ ", peers: " ++ toString t.peers.length ++
    " \x7d"

/-- A mailbox: handler ids and the contexts they run on. -/
structure Mailbox where
  nextId : Nat := 1
  entries : List (Nat × ContextId) := []

namespace Mailbox

/-- The context a handler runs on. -/
def contextOf (m : Mailbox) (h : Nat) : Option ContextId := (m.entries.find? (·.1 == h)).map (·.2)

/-- Registers a handler on a context. -/
def register (m : Mailbox) (c : ContextId) : Nat × Mailbox :=
  (m.nextId, { nextId := m.nextId + 1, entries := m.entries ++ [(m.nextId, c)] })

/-- Removes a handler; the flag says whether it was registered. -/
def unregister (m : Mailbox) (h : Nat) : Bool × Mailbox :=
  ((m.contextOf h).isSome, { m with entries := m.entries.filter (·.1 != h) })

/-- Registers a handler on a context, provided the registry holds it. -/
def registerIn (m : Mailbox) (r : Registry) (c : ContextId) : Except Error (Nat × Mailbox) :=
  if r.contains c then .ok (m.register c) else .error (.unboundExecution "mailbox register")

/-- Registers a handler on the caller's current context. -/
def registerCurrent (m : Mailbox) (r : Registry) (current : Option ContextId) :
    Except Error (Nat × Mailbox) :=
  match current with
  | some c => m.registerIn r c
  | none => .error (.unboundExecution "mailbox register")

end Mailbox

/-- A server that is listening, and the port it listens on. -/
structure Listening where
  port : Nat

/-- A server. -/
structure Server where
  ctx : ContextId
  /-- The connect handler, if set: whether it echoes and whether it records. -/
  handler : Option (Bool × Bool) := none
  tls : Option TlsConfig := none
  nodelay : Bool := true
  listening : Option Listening := none
  /-- The port it was given when it started listening, kept after it closes. -/
  port : Option Nat := none
  closed : Bool := false
  connections : List Nat := []

/-- The debug text of a server. -/
def Server.debug (s : Server) : String :=
  "NetServer \x7b context: " ++ s.ctx.debug ++ ", local_addr: " ++
    (match s.listening with
      | some l => "Some(127.0.0.1:" ++ toString l.port ++ ")"
      | none => "None") ++ ", connections: " ++ toString s.connections.length ++ " \x7d"

/-- A probe: the current context at each hit. -/
structure Probe where
  observations : List (Option ContextId) := []

namespace Probe

/-- The first observation, if it had a context. -/
def first (p : Probe) : Option ContextId := p.observations.head?.bind id

/-- Every observation saw the same context. -/
def isConsistent (p : Probe) : Bool :=
  match p.observations with
  | some c :: rest => rest.all (· == some c)
  | _ => false

end Probe

end Affinity
