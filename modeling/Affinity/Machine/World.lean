import Affinity.Config.Workers
import Affinity.Context.Registry
import Affinity.Machine.Connection
import Affinity.Machine.Parts
import Affinity.Machine.Pool
import Affinity.Machine.Worker
import Affinity.Net.Pipe
/-!
The world: everything a running system holds, as one value.

A `World` has the configuration, the context registry, the workers, the tasks and timers, the
mailboxes, transports, pipes, pools, connections, servers and probes, the notes written so far,
and what the script has learned (the contexts it knows by number, the connections delivered to
it). `Exec` says where code runs: on a worker (with the context of the command or task) or off
the workers.

Connections are numbered from 1; `conn?` and `setConn` read and write them by number.
-/

namespace Affinity

/-- Where code runs: on a worker, with its current context, or off the workers. -/
structure Exec where
  worker : Option Nat := none
  ctx : Option ContextId := none
  deriving DecidableEq, Repr

/-- Everything a running system holds. -/
structure World where
  config : WorkerConfig
  registry : Registry
  workers : Array Worker
  running : Bool := true
  tasks : Array Task := #[]
  timers : List Timer := []
  clock : Nat := 0
  timerSeq : Nat := 0
  mailboxes : Array Mailbox := #[]
  transports : Array MemoryTransport := #[]
  duplexes : Array Net.Duplex := #[]
  pools : Array Pool := #[]
  conns : Array Connection := #[]
  servers : Array Server := #[]
  probes : Array Probe := #[]
  notes : Array Event := #[]
  /-- Ports handed out to listeners and closed-port pools. -/
  ports : List Nat := []
  /-- Context numbers the script has learned. -/
  known : List Nat := []
  /-- Connections delivered to the script. -/
  delivered : List Nat := []

namespace World

/-- A connection by number. -/
def conn? (w : World) (id : Nat) : Option Connection := w.conns[id - 1]?

/-- Updates a connection by number. -/
def modifyConn (w : World) (id : Nat) (f : Connection → Connection) : World :=
  { w with conns := w.conns.modify (id - 1) f }

/-- Updates a pool. -/
def modifyPool (w : World) (i : Nat) (f : Pool → Pool) : World :=
  { w with pools := w.pools.modify i f }

/-- Updates a worker. -/
def modifyWorker (w : World) (i : Nat) (f : Worker → Worker) : World :=
  { w with workers := w.workers.modify i f }

/-- Updates a task. -/
def modifyTask (w : World) (i : Nat) (f : Task → Task) : World :=
  { w with tasks := w.tasks.modify i f }

/-- Updates a duplex. -/
def modifyDuplex (w : World) (i : Nat) (f : Net.Duplex → Net.Duplex) : World :=
  { w with duplexes := w.duplexes.modify i f }

/-- Updates a transport. -/
def modifyTransport (w : World) (i : Nat) (f : MemoryTransport → MemoryTransport) : World :=
  { w with transports := w.transports.modify i f }

/-- Updates a server. -/
def modifyServer (w : World) (i : Nat) (f : Server → Server) : World :=
  { w with servers := w.servers.modify i f }

/-- Updates a mailbox. -/
def modifyMailbox (w : World) (i : Nat) (f : Mailbox → Mailbox) : World :=
  { w with mailboxes := w.mailboxes.modify i f }

/-- Writes a note under the current context. -/
def note (w : World) (x : Exec) (n : Note) : World :=
  { w with notes := w.notes.push { note := n, ctx := x.ctx } }

/-- Counts on a worker. -/
def count (w : World) (i : Nat) (f : WorkerStats → WorkerStats) : World :=
  w.modifyWorker i fun k => { k with stats := f k.stats }

/-- Learns a context number. -/
def learn (w : World) (c : ContextId) : World :=
  if w.known.contains c.val then w else { w with known := w.known ++ [c.val] }

end World

end Affinity
