import Affinity.Machine.Task
import Affinity.Net.Endpoint
import Affinity.Net.Lifecycle
/-!
Connections: the state a connection handle shares with its driver task.

A `Connection` has an owner context, a handler generation (`epoch`, bumped whenever the owner
changes or the callbacks are cleared), a lifecycle state, its callbacks, the queue of outgoing
items for its driver, the pause flag, and the write-queue accounting: `queued` bytes waiting
to be written, the queue limit, and whether a drain callback is due once the queue has gone
down to half the limit. The driver is either waiting for something to do (`selecting`) or in
the middle of writing one item (`writing`).

Main statements: `stamp_repin` and `stamp_clearHandlers` (both change the stamp, so events
issued before are recognised as stale).
-/

namespace Affinity

/-- The default write-queue limit. -/
def defaultWriteQueueMax : Nat := 65536

/-- The most bytes one read of a driver takes. -/
def readChunk : Nat := 8192

/-- The recording callbacks of a connection, each with its tag. -/
structure Handlers where
  data : Option String := none
  drain : Option String := none
  finish : Option String := none
  closed : Option String := none
  exception : Option String := none
  deriving DecidableEq, Repr

/-- An item for the driver: bytes to write (with the completion's context and tag), or close. -/
inductive Outbound where
  | data (bytes : ByteArray) (done : Option (ContextId × String))
  | close

/-- What runs when a connection has closed. -/
inductive CloseHook where
  /-- The pool frees the connection's slot. -/
  | pool (index : Nat)
  /-- The server forgets the connection and destroys its context. -/
  | server (index : Nat) (ctx : ContextId)
  deriving DecidableEq, Repr

/-- What a connection's driver is doing. -/
inductive DriverState where
  | selecting
  /-- Writing one item: the bytes still to write, the item's length and its completion. -/
  | writing (rest : ByteArray) (len : Nat) (done : Option (ContextId × String))

/-- A connection. -/
structure Connection where
  id : Nat
  endpoint : Endpoint
  keepAlive : Bool
  owner : ContextId
  epoch : Nat := 0
  state : ConnectionState := .connecting
  handlers : Handlers := {}
  outbound : List Outbound := []
  /-- Whether a driver still takes outgoing items. -/
  driverHeld : Bool := true
  paused : Bool := false
  /-- Bumped by every pause or resume; the driver notices a change it has not seen. -/
  pauseVersion : Nat := 0
  seenVersion : Nat := 0
  queued : Nat := 0
  queueMax : Nat := defaultWriteQueueMax
  drainPending : Bool := false
  hook : Option CloseHook := none
  task : Option Nat := none
  duplex : Option Nat := none
  driver : DriverState := .selecting

namespace Connection

/-- The owner and generation events are issued under. -/
def stamp (c : Connection) : Stamp := ⟨c.owner, c.epoch⟩

/-- Whether the write queue is at or over its limit. -/
def queueFull (c : Connection) : Bool := c.queued ≥ c.queueMax

/-- Moves the connection to a new owner. -/
def repin (c : Connection) (owner : ContextId) : Connection :=
  { c with owner := owner, epoch := c.epoch + 1 }

/-- Drops all callbacks. -/
def clearHandlers (c : Connection) : Connection :=
  { c with handlers := {}, epoch := c.epoch + 1 }

/-- The debug text of a connection. -/
def debug (c : Connection) : String :=
  "Connection \x7b id: " ++ toString c.id ++ ", endpoint: " ++ c.endpoint.debug ++ ", owner: " ++
    c.owner.debug ++ ", state: " ++ (match c.state with
      | .connecting => "Connecting" | .active => "Active" | .closing => "Closing"
      | .closed => "Closed") ++ " \x7d"

theorem stamp_repin (c : Connection) (o : ContextId) : (c.repin o).stamp ≠ c.stamp := by
  simp [repin, stamp]

theorem stamp_clearHandlers (c : Connection) : c.clearHandlers.stamp ≠ c.stamp := by
  simp [clearHandlers, stamp]

end Connection

end Affinity
