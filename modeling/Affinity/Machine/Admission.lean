import Affinity.Machine.Link
/-!
Pool effects: carrying out what a pool decided.

* `acquireOn` admits a request from a live context: it hands over an idle connection, opens a
  new one, or leaves the request waiting.
* `connect` opens a connection for a context: it records the connection as held and spawns its
  connect task there. If the task cannot be spawned, the attempt fails at once (`connectFailed`)
  with no one to answer, and the slot passes to the next waiter.
* `connectFailed` forgets the attempt, reports the error, answers the requester if there is
  one, and opens a connection for the next waiter.
* `handOff` gives a connection to a waiting context and answers it there; if the answer cannot
  be posted, the pool takes the connection back.
* `checkIn` and `release` take a connection back; `closePool` turns waiters away and closes
  live connections; `freeSlot` runs when a pool connection has closed.

The chains these start (failed connects, refused answers) consume one waiter per link, so
`fuel` bounded by the number of waiters is enough.
-/

namespace Affinity

namespace World

/-- Reports a pool error: written as a note when the pool reports errors. -/
def report (w : World) (x : Exec) (pool : Nat) (e : Error) : World :=
  match w.pools[pool]? with
  | some p => if p.report then w.note x (.poolError pool e) else w
  | none => w

mutual

/-- Opens a connection of a pool for a context. -/
def connect (w : World) (x : Exec) (pool : Nat) (ctx : ContextId) : Nat → World
  | 0 => w
  | fuel + 1 =>
    match w.pools[pool]? with
    | none => w
    | some p =>
      let id := w.conns.size + 1
      let c : Connection :=
        { id, endpoint := p.endpoint, keepAlive := p.config.keepAlive, owner := ctx,
          hook := some (.pool pool) }
      let w := { w with conns := w.conns.push c }
      let w := w.modifyPool pool (·.track id ctx)
      match w.spawnOn ctx (.connect pool id) with
      | .ok w => w
      | .error e =>
        let w := w.modifyConn id ({ · with driverHeld := false })
        connectFailed w x pool id
          (.admission ("cannot open connection on " ++ ctx.display ++ ": " ++ e.message)) false fuel

/-- A connect attempt failed. -/
def connectFailed (w : World) (x : Exec) (pool id : Nat) (e : Error) (answer : Bool) :
    Nat → World
  | 0 => w
  | fuel + 1 =>
    let (_, w) := w.abort id
    match w.pools[pool]? with
    | none => w
    | some p =>
      let (next, p) := p.dropFailed id
      let w := w.modifyPool pool fun _ => p
      let w := w.report x pool e
      let w := if answer then w.perform x (.answer pool (.error e)) else w
      match next with
      | some ctx => connect w x pool ctx fuel
      | none => w

end

mutual

/-- Gives a connection to a waiting context. -/
def handOff (w : World) (x : Exec) (pool id : Nat) (ctx : ContextId) : Nat → World
  | 0 => w
  | fuel + 1 =>
    let w := w.modifyConn id (·.repin ctx)
    let w := w.modifyPool pool fun p => { p with reused := p.reused + 1 }
    match w.post ctx (.work (.answer pool (.ok id))) with
    | .ok w => w
    | .error _ =>
      match checkIn w x pool id none fuel with
      | .ok w => w
      | .error _ => w

/-- Takes a connection back into a pool. -/
def checkIn (w : World) (x : Exec) (pool id : Nat) (caller : Option ContextId) :
    Nat → Except Error World
  | 0 => .ok w
  | fuel + 1 =>
    match w.pools[pool]?, w.conn? id with
    | some p, some c =>
      match p.checkIn id caller c.state.isOpen c.keepAlive with
      | .error e => .error e
      | .ok (decision, p) =>
        let w := (w.modifyPool pool fun _ => p).modifyConn id (·.clearHandlers)
        match decision with
        | .handOff ctx => .ok (handOff w x pool id ctx fuel)
        | .idle => .ok w
        | .close => .ok (w.close x id)
    | some p, none =>
      match p.checkIn id caller false false with
      | .error e => .error e
      | .ok _ => .ok w
    | none, _ => .ok w

end

/-- Enough fuel for the chains a pool can start. -/
def poolFuel (w : World) (pool : Nat) : Nat :=
  ((w.pools[pool]?.map (·.waiters.length)).getD 0) * 2 + 4

/-- Admits an acquire request of a context. -/
def acquireOn (w : World) (x : Exec) (pool : Nat) (ctx : ContextId) : Except Error World :=
  if !w.registry.contains ctx then .error (.unboundExecution "connection acquire")
  else match w.pools[pool]? with
    | none => .ok w
    | some p =>
      match p.grant ctx with
      | .error e => .error e
      | .ok (decision, p) =>
        let w := w.modifyPool pool fun _ => p
        match decision with
        | .reuse id => .ok (w.handOff x pool id ctx (w.poolFuel pool))
        | .connect c => .ok (w.connect x pool c (w.poolFuel pool))
        | .queued => .ok w

/-- Releases a connection from the current context. -/
def release (w : World) (x : Exec) (pool id : Nat) : Except Error World :=
  match x.ctx with
  | none => .error (.unboundExecution "connection release")
  | some c => w.checkIn x pool id (some c) (w.poolFuel pool)

/-- Closes a pool: waiters are told it closed, live connections are asked to close. -/
def closePool (w : World) (x : Exec) (pool : Nat) : World :=
  match w.pools[pool]? with
  | none => w
  | some p =>
    if p.closed then w
    else
      let (waiters, live, p) := p.close
      let w := w.modifyPool pool fun _ => p
      let w := waiters.foldl (fun w ctx =>
        match w.post ctx (.work (.answer pool (.error .poolClosed))) with
        | .ok w => w
        | .error _ => w) w
      live.foldl (fun w id => w.close x id) w

/-- A pool connection closed: its slot is freed and may go to the next waiter. -/
def freeSlot (w : World) (x : Exec) (pool id : Nat) : World :=
  match w.pools[pool]? with
  | none => w
  | some p =>
    let (next, p) := p.freeSlot id
    let w := w.modifyPool pool fun _ => p
    match next with
    | some ctx => w.connect x pool ctx (w.poolFuel pool)
    | none => w

end World

end Affinity
