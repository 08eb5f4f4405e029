import Affinity.Machine.Admission
/-!
Connection drivers and connect tasks.

A driver task owns the local end of a connection's byte stream. Each poll runs its loop until
it must wait: it writes the oldest queued item into the outgoing pipe (waiting while the pipe is
full), or, when nothing is queued, reads up to `readChunk` bytes from the incoming pipe unless
paused, or notices a pause change. Each event goes to the connection's owner under the current
stamp: inline when the owner is the task's own context, posted otherwise.

* After an item is written, the queued count drops by its length; once it is at most half the
  limit, a due drain is announced. Then the item's completion runs on the context that wrote it.
* A close item, or end of stream, stops the loop; a failed write stops it with an error, which
  goes to the exception callback first.
* `finishClose` then marks the connection closed, empties its queue count, sends the closed
  notice and runs the close hook (the pool frees the slot; a server destroys the context).

A connect task asks its pool's transport for a stream: an in-memory transport counts the
attempt, waits its delay, then refuses while refusals are left, or opens a pipe; TCP attempts
fail. On success the requester is answered (with an error if the pool has closed meanwhile) and
the task becomes the connection's driver.
-/

namespace Affinity

namespace World

/-- Sends a connection event to the connection's owner. -/
def emit (w : World) (x : Exec) (id : Nat) (mk : Stamp → Work) : World :=
  match w.conn? id with
  | some c => w.runOnOrDrop x c.owner (mk c.stamp)
  | none => w

/-- Accounts for a written item and announces a due drain. -/
def wrote (w : World) (x : Exec) (id len : Nat) : World :=
  match w.conn? id with
  | none => w
  | some c =>
    let remaining := c.queued - len
    let w := w.modifyConn id ({ · with queued := remaining })
    if remaining ≤ c.queueMax / 2 && c.drainPending then
      (w.modifyConn id ({ · with drainPending := false })).emit x id (.connSignal id · .drain)
    else w

/-- Marks a connection closed, sends the closed notice and runs the close hook. -/
def finishClose (w : World) (x : Exec) (id : Nat) : World :=
  match w.conn? id with
  | none => w
  | some c =>
    if c.state == .closed then w
    else
      let w := w.modifyConn id ({ · with state := .closed, queued := 0 })
      let (sent, w) := w.notifyClosed x id
      let w := if sent then w else w.modifyConn id (·.clearHandlers)
      let w := w.modifyConn id ({ · with hook := none })
      match c.hook with
      | some (.pool p) => w.freeSlot x p id
      | some (.server s ctx) =>
        let w := w.modifyServer s fun v => { v with connections := v.connections.filter (· != id) }
        match w.post ctx (.work (.destroy ctx)) with
        | .ok w => w
        | .error _ => { w with registry := (w.registry.destroy ctx).2 }
      | none => w

/-- Stops a driver: reports the failure, shuts the outgoing pipe, finishes the close, and drops
    the stream and the queue. -/
def stopDriver (w : World) (x : Exec) (t id : Nat) (failure : Option Error) : World :=
  let w := match failure with
    | some e => w.emit x id (.connError id · e)
    | none => w
  let dup := (w.conn? id).bind (·.duplex)
  let w := match dup with
    | some d => w.modifyDuplex d fun d => { d with toPeer := d.toPeer.close }
    | none => w
  let w := w.finishClose x id
  let w := w.modifyTask t ({ · with gone := true, phase := .finished })
  let w := w.modifyConn id ({ · with driverHeld := false, outbound := [] })
  match dup with
  | some d => w.modifyDuplex d (·.dropLocal)
  | none => w

/-- Runs a driver's loop until it has to wait. -/
def driveLoop (w : World) (x : Exec) (t id : Nat) : Nat → World
  | 0 => w
  | fuel + 1 =>
    match w.conn? id with
    | none => w
    | some c =>
      match c.duplex with
      | none => w
      | some d =>
        let pipes := w.duplexes[d]?.getD {}
        match c.driver with
        | .writing rest len done =>
          match pipes.toPeer.write rest with
          | none =>
            let w := w.wrote x id len
            w.stopDriver x t id (some (.io { kind := .brokenPipe }))
          | some (n, pipe) =>
            let w := w.modifyDuplex d fun d => { d with toPeer := pipe }
            if n = rest.size then
              let w := w.modifyConn id ({ · with driver := .selecting })
              let w := w.wrote x id len
              let w := match done with
                | some (writer, tag) => w.runOnOrDrop x writer (.record (.writeDone tag))
                | none => w
              driveLoop w x t id fuel
            else w.modifyConn id ({ · with driver := .writing (rest.extract n rest.size) len done })
        | .selecting =>
          match c.outbound with
          | .data bytes done :: more =>
            let w := w.modifyConn id ({ · with outbound := more, driver := .writing bytes bytes.size done })
            driveLoop w x t id fuel
          | .close :: more =>
            let w := w.modifyConn id ({ · with outbound := more })
            w.stopDriver x t id none
          | [] =>
            let read := if c.paused then Net.ReadResult.empty else (pipes.toLocal.read readChunk).1
            match read with
            | .bytes b =>
              let w := w.modifyDuplex d fun d => { d with toLocal := (d.toLocal.read readChunk).2 }
              driveLoop (w.emit x id (.connData id · b)) x t id fuel
            | .endOfStream =>
              let w := w.emit x id (.connSignal id · .finish)
              w.stopDriver x t id none
            | .empty =>
              if c.pauseVersion != c.seenVersion then
                driveLoop (w.modifyConn id ({ · with seenVersion := c.pauseVersion })) x t id fuel
              else w

/-- How many loop rounds one poll of a driver may take. -/
def driveFuel : Nat := 100000

/-- Polls a connect task. -/
def pollConnect (w : World) (x : Exec) (t pool id : Nat) (slept : Bool) : World :=
  match w.pools[pool]? with
  | none => w
  | some p =>
    let ep := p.endpoint
    let fail (w : World) (e : Error) : World :=
      let w := w.modifyTask t ({ · with gone := true, phase := .finished })
      w.connectFailed x pool id e true (w.poolFuel pool)
    match p.transport with
    | .tcp _ => fail w (.admission ("connect to " ++ ep.display ++ " failed"))
    | .memory ti =>
      let tr := w.transports[ti]?.getD {}
      let w := if slept then w
        else w.modifyTransport ti fun tr => { tr with attempts := tr.attempts + 1, endpoints := tr.endpoints ++ [ep] }
      match tr.delayMs, slept with
      | some ms, false =>
        let timer : Timer := { deadline := w.clock + ms, seq := w.timerSeq, task := t }
        let w := { w with timers := w.timers ++ [timer], timerSeq := w.timerSeq + 1 }
        w.modifyTask t ({ · with phase := .connecting pool id true })
      | _, _ =>
        let tr := w.transports[ti]?.getD {}
        if tr.failuresLeft > 0 then
          let w := w.modifyTransport ti fun tr => { tr with failuresLeft := tr.failuresLeft - 1 }
          fail w (.admission ("connect to " ++ ep.display ++ " failed: mock refused " ++ ep.display))
        else
          let d := w.duplexes.size
          let w := { w with duplexes := w.duplexes.push {} }
          let w := w.modifyTransport ti fun tr => { tr with peers := tr.peers ++ [d] }
          let w := w.modifyPool pool fun p => { p with created := p.created + 1 }
          let closed := (w.pools[pool]?.map (·.closed)).getD false
          let w := w.perform x (.answer pool (if closed then .error .poolClosed else .ok id))
          let w := w.modifyConn id fun c =>
            { c with state := if c.state == .connecting then .active else c.state, task := some t,
                     duplex := some d }
          let w := w.modifyTask t ({ · with phase := .driving id })
          w.driveLoop x t id driveFuel

end World

end Affinity
