import Affinity.Machine.Dispatch
/-!
Connection handles: what owners do to a connection.

* `write` queues bytes (with an optional completion tag, run later on whoever owned the
  connection at the time of the write). It refuses a connection that is not open, and one whose
  driver is gone; the queued count grows by the write's length, and a drain is due once it
  reaches the limit.
* `close` moves an open connection to `closing` and asks its driver to stop.
* `pause` and `resume` set the flag that keeps the driver from reading.
* `setQueueMax` sets the write-queue limit (at least one byte).
* `abort` marks a connection closed without its driver and drops its callbacks.

The driver task is woken only for what it is waiting on: items and pause changes while it
selects, room in the pipe while it writes.

Main statement: `write_closed` (a connection that is not open refuses writes).
-/

namespace Affinity

namespace World

/-- Wakes a connection's driver if it is selecting. -/
def wakeSelecting (w : World) (x : Exec) (id : Nat) : World :=
  match w.conn? id with
  | some { task := some t, driver := .selecting, .. } =>
    match w.tasks[t]? with
    | some { phase := .driving _, .. } => w.wake x t
    | _ => w
  | _ => w

/-- Queues bytes on a connection. A write refused because the driver is gone still leaves a due
    drain behind, as the limit check comes first. -/
def write (w : World) (x : Exec) (id : Nat) (bytes : ByteArray) (tag : Option String) :
    Except Error Unit × World :=
  match w.conn? id with
  | none => (.error .connectionClosed, w)
  | some c =>
    if !c.state.isOpen then (.error .connectionClosed, w)
    else
      let queued := c.queued + bytes.size
      let due := c.drainPending || queued ≥ c.queueMax
      if !c.driverHeld then (.error .connectionClosed, w.modifyConn id ({ · with drainPending := due }))
      else
        let done := tag.map (c.owner, ·)
        let w := w.modifyConn id fun c =>
          { c with queued := queued, drainPending := due, outbound := c.outbound ++ [.data bytes done] }
        (.ok (), w.wakeSelecting x id)

/-- Asks an open connection to close. -/
def close (w : World) (x : Exec) (id : Nat) : World :=
  match w.conn? id with
  | none => w
  | some c =>
    if !c.state.isOpen then w
    else
      let w := w.modifyConn id ({ · with state := .closing })
      if c.driverHeld then
        (w.modifyConn id fun c => { c with outbound := c.outbound ++ [.close] }).wakeSelecting x id
      else w

/-- Sets or clears the pause flag; the driver notices the change. -/
def setPaused (w : World) (x : Exec) (id : Nat) (on : Bool) : World :=
  (w.modifyConn id fun c => { c with paused := on, pauseVersion := c.pauseVersion + 1 }).wakeSelecting x id

/-- Sets the write-queue limit. -/
def setQueueMax (w : World) (id : Nat) (max : Nat) : World :=
  w.modifyConn id ({ · with queueMax := Nat.max max 1 })

/-- Marks a connection closed without its driver and drops its callbacks; returns its hook. -/
def abort (w : World) (id : Nat) : Option CloseHook × World :=
  match w.conn? id with
  | none => (none, w)
  | some c => (c.hook, w.modifyConn id fun c => { c.clearHandlers with state := .closed, hook := none })

theorem write_closed (w : World) (x : Exec) (id : Nat) (b : ByteArray) (t : Option String)
    (c : Connection) (hc : w.conn? id = some c) (h : c.state.isOpen = false) :
    (w.write x id b t).1 = .error .connectionClosed := by
  simp [write, hc, h]

end World

end Affinity
