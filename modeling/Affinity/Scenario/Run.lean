import Affinity.Files
import Affinity.Machine.Turn
import Affinity.Net.Listen
import Affinity.Scenario.Mask
import Affinity.Scenario.Reply
import Affinity.Threads
/-!
Running scenarios.

`step` gives the meaning of each operation, run from `Exec` (on a worker with its current
context, or off the workers). A step stops early with its answer when it refers to something
the script does not know: a context number it never learned, a connection never delivered to
it, a mailbox, pool, server or probe it never made, or a peer end that is gone.

`runStep` runs one scenario step the way a script does: a step that names a context is posted
there and waited for; every step is followed by settling, so the next one starts from a quiet
system. Its events are the notes written meanwhile, ordered by context (off the workers first),
in the order written within one context, with consecutive data of one connection and tag joined.

`runScenario` starts a world of `W` workers whose contexts `1..W` belong to the script and are
already bound, then runs the steps in order. Starting fails when the settings are invalid or the
system refuses the worker threads, and panics on a thread name holding a NUL byte.
-/

namespace Affinity.Scenario

/-- A step's computation: it may stop early with its answer. -/
abbrev StepM := ExceptT Reply (StateM World)

/-- Runs a step's computation, taking an early answer as the answer. -/
def StepM.finish (m : StepM Reply) (w : World) : Reply × World :=
  match Id.run ((ExceptT.run m).run w) with
  | (.ok r, w) => (r, w)
  | (.error r, w) => (r, w)

/-- Stops with a refusal. -/
def refuse {α : Type} (reason : String) : StepM α := throw (.refused reason)

/-- Stops with an error of the library. -/
def fail {α : Type} (e : Error) : StepM α := throw (.failed e)

/-- The value of a result, or its error as the answer. -/
def orFail {α : Type} : Except Error α → StepM α
  | .ok a => pure a
  | .error e => fail e

/-- A context the script knows. -/
def knownContext (n : Nat) : StepM ContextId := do
  if (← get).known.contains n then pure ⟨n⟩
  else refuse ("context " ++ toString n ++ " was never created")

/-- A pool the script made. -/
def poolAt (i : Nat) : StepM Pool := do
  match (← get).pools[i]? with
  | some p => pure p
  | none => refuse "unknown pool"

/-- The in-memory transport of a pool. -/
def transportOf (i : Nat) : StepM Nat := do
  match (← poolAt i).transport with
  | .memory t => pure t
  | .tcp _ => refuse "the pool has no in-memory transport"

/-- A connection delivered to the script. -/
def deliveredConn (id : Nat) : StepM Connection := do
  let w ← get
  match w.conn? id with
  | some c =>
    if w.delivered.contains id then return c
    refuse ("connection " ++ toString id ++ " was never delivered")
  | none => refuse ("connection " ++ toString id ++ " was never delivered")

/-- A mailbox the script made. -/
def mailboxAt (i : Nat) : StepM Mailbox := do
  match (← get).mailboxes[i]? with
  | some m => pure m
  | none => refuse "unknown mailbox"

/-- A server the script made. -/
def serverAt (i : Nat) : StepM Server := do
  match (← get).servers[i]? with
  | some s => pure s
  | none => refuse "unknown server"

/-- A probe the script made. -/
def probeAt (i : Nat) : StepM Probe := do
  match (← get).probes[i]? with
  | some p => pure p
  | none => refuse "unknown probe"

/-- Replaces the world with a result's, or answers its error. -/
def apply (r : Except Error World) : StepM Unit := do set (← orFail r)

/-- The next port handed out by the operating system. -/
def freshPort : StepM Nat := do
  let w ← get
  let p := 49152 + 7 * w.ports.length + 3
  set { w with ports := w.ports ++ [p] }
  pure p

/-- The connection whose local end is a duplex. -/
def connOfDuplex (w : World) (d : Nat) : Option Connection :=
  w.conns.find? (·.duplex == some d)

/-- Wakes the driver reading from a duplex, if it waits for bytes. -/
def wakeReader (w : World) (d : Nat) : World :=
  match connOfDuplex w d with
  | some c => if c.paused then w else w.wakeSelecting {} c.id
  | none => w

/-- Wakes the driver writing into a duplex, if it waits for room. -/
def wakeWriter (w : World) (d : Nat) : World :=
  match connOfDuplex w d with
  | some { task := some t, driver := .writing .., .. } => w.wake {} t
  | _ => w

/-- How many nested steps a step may run. -/
def stepFuel : Nat := 16

/-- How many turns settling may take. -/
def settleFuel : Nat := 1000000

/-- Runs workers until the system is quiet. -/
def settleNow (exec : Exec → Op → World → Reply × World) : StepM Unit :=
  modify fun w => (World.settle exec settleFuel [] w []).2

/-- Writes from a peer what fits, settling after each attempt, until all is written or two
    attempts in a row write nothing. -/
def peerWriteLoop (exec : Exec → Op → World → Reply × World) (d : Nat) : Nat → ByteArray → Nat → Nat → StepM (Nat × Option String)
  | 0, _, written, _ => pure (written, none)
  | fuel + 1, rest, written, misses => do
    if rest.size = 0 || misses ≥ 2 then return (written, none)
    let w ← get
    match (w.duplexes[d]?.getD {}).toLocal.write rest with
    | none => pure (written, some IoKind.brokenPipe.description)
    | some (n, pipe) =>
      let w := w.modifyDuplex d fun x => { x with toLocal := pipe }
      set (if n > 0 then wakeReader w d else w)
      settleNow exec
      peerWriteLoop exec d fuel (rest.extract n rest.size) (written + n) (if n = 0 then misses + 1 else 0)

/-- Reads at a peer, settling after each read, until two reads in a row find nothing or the
    stream ends. -/
def peerReadLoop (exec : Exec → Op → World → Reply × World) (d : Nat) : Nat → ByteArray → Nat → StepM (ByteArray × Bool)
  | 0, acc, _ => pure (acc, false)
  | fuel + 1, acc, misses => do
    let w ← get
    let (r, pipe) := (w.duplexes[d]?.getD {}).toPeer.read Net.pipeCapacity
    match r with
    | .endOfStream => pure (acc, true)
    | .bytes b =>
      set (wakeWriter (w.modifyDuplex d fun x => { x with toPeer := pipe }) d)
      settleNow exec
      peerReadLoop exec d fuel (acc ++ b) 0
    | .empty =>
      if misses ≥ 1 then pure (acc, false)
      else do
        settleNow exec
        peerReadLoop exec d fuel acc (misses + 1)

/-- The duplex of a peer end held by the script; peer steps run off the workers. -/
def peerDuplex (x : Exec) (pool peer : Nat) : StepM Nat := do
  if x.ctx.isSome then refuse "peer steps run off the workers"
  let t ← transportOf pool
  let w ← get
  match ((w.transports[t]?.map (·.peers)).getD [])[peer]? with
  | none => refuse "unknown peer"
  | some d =>
    if (w.duplexes[d]?.map (·.peerHeld)).getD false then pure d else refuse "peer was dropped"

/-- Changes a server's settings: only on its context and before it listens. -/
def configure (x : Exec) (i : Nat) (f : Server → Server) : StepM Reply := do
  let s ← serverAt i
  if x.ctx != some s.ctx then fail (.affinityViolation s.ctx x.ctx)
  if s.listening.isSome || s.closed then fail (.config "server settings cannot change after listen")
  modify fun w => w.modifyServer i f
  pure .ok

/-- Registers a mailbox handler on a live context: the one named, or the current one. -/
def registerOn (mb : Nat) (current : Option ContextId) : StepM Reply := do
  let m ← mailboxAt mb
  let (h, m) ← orFail (m.registerCurrent (← get).registry current)
  modify fun w => w.modifyMailbox mb fun _ => m
  pure (.handler h)

/-- Builds a pool. -/
def newPool (fs : FileStore) (spec : PoolSpec) : StepM Reply := do
  let w ← get
  let index := w.pools.size
  match spec.target with
  | .memory share delay =>
    let (t, fresh) ← match share with
      | some i => if i < w.transports.size then pure (i, false) else refuse "unknown transport"
      | none => pure (w.transports.size, true)
    let (endpoint, config) ← match spec.client with
      | some c => do orFail c.validate; pure (c.endpoint, c.poolConfig)
      | none =>
        let config : PoolConfig := { maxSize := spec.maxSize, keepAlive := spec.keepAlive }
        orFail config.validate
        let endpoint : Endpoint := { host := spec.host, port := spec.port, tls := spec.tls }
        pure (endpoint, config)
    let w := if fresh then { w with transports := w.transports.push { delayMs := delay } } else w
    let pool : Pool := { endpoint := endpoint, config := config, transport := .memory t,
                         report := spec.report, client := spec.client }
    set { w with pools := w.pools.push pool }
    pure (.pool index (some t) endpoint.display config.maxSize config.keepAlive)
  | target =>
    let port ← match target with
      | .server s => do
        match (← serverAt s).port with
        | some p => pure p
        | none => refuse "the server is not listening"
      | _ => freshPort
    match spec.client with
    | some c =>
      let c := { c with host := "127.0.0.1", port }
      orFail c.validate
      let tls ← if c.tls.enabled then some <$> orFail (c.tls.clientMaterial fs) else pure none
      let settings : TcpSettings := { tls, connectTimeout := c.connectTimeout, nodelay := c.tcpNodelay }
      let pool : Pool := { endpoint := c.endpoint, config := c.poolConfig, transport := .tcp settings,
                           report := spec.report, client := some c }
      modify fun w => { w with pools := w.pools.push pool }
      pure (.pool index none c.endpoint.display c.maxPoolSize c.keepAlive)
    | none =>
      let tls ← match spec.transportTls with
        | some t => some <$> orFail (t.clientMaterial fs)
        | none => pure none
      let settings : TcpSettings :=
        { tls, connectTimeout := spec.connectTimeoutMs.map Text.Duration.ofMillis, nodelay := spec.nodelay }
      let config : PoolConfig := { maxSize := spec.maxSize, keepAlive := spec.keepAlive }
      orFail config.validate
      let endpoint : Endpoint := { host := "127.0.0.1", port, tls := spec.tlsEndpoint }
      let pool : Pool := { endpoint := endpoint, config := config, transport := .tcp settings,
                           report := spec.report }
      modify fun w => { w with pools := w.pools.push pool }
      pure (.pool index none endpoint.display config.maxSize config.keepAlive)

/-- Starts a server listening. -/
def listen (fs : FileStore) (x : Exec) (i : Nat) (addr : String) : StepM Reply := do
  let s ← serverAt i
  if x.ctx != some s.ctx then fail (.affinityViolation s.ctx x.ctx)
  if s.listening.isSome then fail (.config "server is already listening")
  if s.closed then fail (.config "server is closed")
  if s.handler.isNone then fail (.config "connect handler must be set before listen")
  if let some tls := s.tls then discard <| orFail (tls.serverMaterial fs)
  let requested ← orFail (Net.requestedPort addr)
  apply ((← get).spawnOn s.ctx (.accept i))
  let port ← if requested = 0 then freshPort else pure requested
  modify fun w => w.modifyServer i fun s => { s with listening := some { port }, port := some port }
  pure (.listening true true)

/-- Closes a server: it stops listening, closes its connections, and reports on its context. -/
def closeServer (x : Exec) (i : Nat) (tag : String) : StepM Reply := do
  let s ← serverAt i
  if x.ctx != some s.ctx then fail (.affinityViolation s.ctx x.ctx)
  modify fun w => w.modifyServer i fun s => { s with closed := true, listening := none }
  if s.listening.isSome then
    modify fun w =>
      let accepting (t : Nat) : Bool := match w.tasks[t]? with
        | some task => !task.gone && (match task.phase with | .accepting j => j == i | _ => false)
        | none => false
      match (List.range w.tasks.size).find? accepting with
      | some t => w.wake x t
      | none => w
  modify fun w => s.connections.foldl (fun w id => w.close x id) w
  apply ((← get).post s.ctx (.work (.record (.serverClosed tag))))
  pure .ok

/-- The meaning of each operation. -/
def step (fs : FileStore) (exec : Exec → Op → World → Reply × World) (x : Exec) :
    Op → StepM Reply
  | .create => do
    let (c, w) := (← get).create x
    set (w.learn c)
    pure (.created c ((w.registry.workerOf c).map (·.index) |>.getD 0))
  | .createRoundRobin => do
    let w ← get
    let (c, registry) := w.registry.createRoundRobin
    set ({ w with registry }.learn c)
    pure (.created c ((registry.workerOf c).map (·.index) |>.getD 0))
  | .destroy n => do
    let c ← knownContext n
    let w ← get
    if n ≤ w.registry.workerCount then refuse "cannot destroy a driver barrier context"
    let (removed, registry) := w.registry.destroy c
    set { w with registry }
    pure (.destroyed removed)
  | .info n => do
    let c ← knownContext n
    let r := (← get).registry
    pure (.info (r.contains c) ((r.workerOf c).map (·.index)) (r.isBound c))
  | .registry => do
    let w ← get
    pure (.registry w.registry.len w.registry.workerCount w.running)
  | .current => pure (.current x.ctx x.ctx x.worker)
  | .isOn n => do
    let c ← knownContext n
    pure (.isOn (x.ctx == some c))
  | .require name =>
    match x.ctx with
    | some c => pure (.context c)
    | none => fail (.unboundExecution name)
  | .affinity n => do
    let c ← knownContext n
    if x.ctx == some c then pure .ok else fail (.affinityViolation c x.ctx)
  | .post n tag => do
    let c ← knownContext n
    apply ((← get).post c (.work (.record (.run tag))))
    pure .ok
  | .runOn n tag => do
    let c ← knownContext n
    apply ((← get).runOn x c (.record (.run tag)))
    pure .ok
  | .spawn n tag => do
    let c ← knownContext n
    apply ((← get).spawnOn c (.script tag))
    pure .ok
  | .execute tag => do
    match (← get).execute x (.work (.record (.run tag))) with
    | (.ok c, w) =>
      set (w.learn c)
      pure (.created c ((w.registry.workerOf c).map (·.index) |>.getD 0))
    | (.error e, w) =>
      set w
      fail e
  | .panic n => do
    let c ← knownContext n
    apply ((← get).post c (.work .fail))
    pure .ok
  | .spawnPanic n => do
    let c ← knownContext n
    apply ((← get).spawnOn c .failing)
    pure .ok
  | .shutdown => do
    let w ← get
    if w.running then
      set w.stopAll
      modify fun w => World.settleOthers exec x.worker settleFuel w
    pure .stopped
  | .workerStats => do
    if x.ctx.isSome then refuse "worker_stats cannot run inside a context"
    let w ← get
    if !w.running then fail .runtimeShutdown
    pure (.stats (w.workers.toList.map (·.stats)))
  | .workersInfo => do
    let w ← get
    pure (.workers w.workers.size w.running x.worker)
  | .config => do pure (.config (← get).config)
  | .mark tag => do
    modify fun w => w.note x (.mark tag)
    pure .ok
  | .batch ops => do
    let mut replies := #[]
    for op in ops do
      let (r, w) := exec x op (← get)
      set w
      replies := replies.push r
    pure (.batch replies.toList)
  | .mailboxNew => do
    let w ← get
    set { w with mailboxes := w.mailboxes.push {} }
    pure (.mailbox w.mailboxes.size)
  | .register mb n => do
    let _ ← mailboxAt mb
    registerOn mb (some (← knownContext n))
  | .registerCurrent mb => do
    let _ ← mailboxAt mb
    registerOn mb x.ctx
  | .unregister mb h => do
    let (removed, m) := (← mailboxAt mb).unregister h
    modify fun w => w.modifyMailbox mb fun _ => m
    pure (.removed removed)
  | .send mb h msg => do
    let _ ← mailboxAt mb
    modify fun w => w.send x mb h msg
    pure .ok
  | .mailboxInfo mb h => do
    let m ← mailboxAt mb
    pure (.mailboxInfo m.entries.length (h.map fun h => ((m.contextOf h).isSome, m.contextOf h)))
  | .poolNew spec => newPool fs spec
  | .failNext pool n => do
    let t ← transportOf pool
    modify fun w => w.modifyTransport t fun tr => { tr with failuresLeft := n }
    pure .ok
  | .acquire pool => do
    let _ ← poolAt pool
    match x.ctx with
    | some c => apply ((← get).acquireOn x pool c); pure .ok
    | none => fail (.unboundExecution "connection acquire")
  | .acquireOn pool n => do
    let _ ← poolAt pool
    let c ← knownContext n
    apply ((← get).acquireOn x pool c)
    pure .ok
  | .release pool id => do
    let _ ← poolAt pool
    let _ ← deliveredConn id
    apply ((← get).release x pool id)
    pure .ok
  | .poolClose pool => do
    let _ ← poolAt pool
    modify fun w => w.closePool x pool
    pure .poolClosed
  | .poolStats pool => do
    let p ← poolAt pool
    pure (.poolStats p.stats p.closed)
  | .transportInfo pool => do
    let t ← transportOf pool
    let tr := ((← get).transports[t]?).getD {}
    pure (.transportInfo tr.attempts tr.peers.length (tr.endpoints.map (·.display)))
  | .connInfo id => do
    let c ← deliveredConn id
    let v : ConnView := { id := id, owner := c.owner, state := c.state, keepAlive := c.keepAlive,
                          endpoint := c.endpoint.display, queued := c.queued, queueMax := c.queueMax,
                          paused := c.paused }
    pure (.conn v)
  | .write id data tag => do
    let _ ← deliveredConn id
    let (r, w) := (← get).write x id data tag
    set w
    match r with
    | .ok () => pure .ok
    | .error e => fail e
  | .closeConn id => do
    let _ ← deliveredConn id
    modify fun w => w.close x id
    pure .ok
  | .pause id => do
    let _ ← deliveredConn id
    modify fun w => w.setPaused x id true
    pure (.paused true)
  | .resume id => do
    let _ ← deliveredConn id
    modify fun w => w.setPaused x id false
    pure (.paused false)
  | .setWriteQueueMax id m => do
    let _ ← deliveredConn id
    modify fun w => w.setQueueMax id m
    let c ← deliveredConn id
    pure (.queueLimit c.queueMax c.queueFull)
  | .handlers id tag which => do
    let _ ← deliveredConn id
    let pick (on : Bool) (old : Option String) : Option String := if on then some tag else old
    modify fun w => w.modifyConn id fun c => { c with handlers :=
      { data := pick which.data c.handlers.data, drain := pick which.drain c.handlers.drain,
        finish := pick which.finish c.handlers.finish, closed := pick which.closed c.handlers.closed,
        exception := pick which.exception c.handlers.exception } }
    pure .ok
  | .peerWrite pool peer data => do
    let d ← peerDuplex x pool peer
    let (n, err) ← peerWriteLoop exec d (data.size + 3) data 0 0
    pure (.written n err)
  | .peerRead pool peer => do
    let d ← peerDuplex x pool peer
    let (bytes, eof) ← peerReadLoop exec d 100000 ByteArray.empty 0
    pure (.read bytes eof)
  | .peerShutdown pool peer => do
    let d ← peerDuplex x pool peer
    modify fun w => wakeReader (w.modifyDuplex d fun x => { x with toLocal := x.toLocal.close }) d
    pure (.shut true)
  | .peerDrop pool peer => do
    let d ← peerDuplex x pool peer
    modify fun w => wakeWriter (wakeReader (w.modifyDuplex d (·.dropPeer)) d) d
    pure .ok
  | .debug target => do
    let w ← get
    match target with
    | .runtime =>
      pure (.debug ("Runtime \x7b config: " ++ w.config.debug ++ ", running: " ++ toString w.running ++ " \x7d"))
    | .dispatcher =>
      pure (.debug ("Dispatcher \x7b contexts: " ++ toString w.registry.len ++ ", workers: " ++
        toString w.workers.size ++ " \x7d"))
    | .mailbox i => do
      let m ← mailboxAt i
      pure (.debug ("Mailbox \x7b handlers: " ++ toString m.entries.length ++ " \x7d"))
    | .pool i => do pure (.debug (← poolAt i).debug)
    | .poolStats i => do pure (.debug (← poolAt i).stats.debug)
    | .transport i => do
      let t ← transportOf i
      pure (.debug ((w.transports[t]?).getD {}).debug)
    | .conn id => do pure (.debug (← deliveredConn id).debug)
    | .server i => do pure (.debug (← serverAt i).debug)
    | .context n => do pure (.debug (← knownContext n).debug)
    | .handler n => pure (.debug (HandlerId.debug ⟨n⟩))
  | .probeNew => do
    let w ← get
    set { w with probes := w.probes.push {} }
    pure (.probe w.probes.size)
  | .probeRecord i => do
    let p ← probeAt i
    let p := { p with observations := p.observations ++ [x.ctx] }
    modify fun w => { w with probes := w.probes.set! i p }
    pure (.hits p.observations.length)
  | .probeInfo i n => do
    let p ← probeAt i
    let allOn ← match n with
      | some n => do
        let c ← knownContext n
        pure (some (p.isConsistent && p.first == some c))
      | none => pure none
    pure (.probeInfo p.observations p.first p.isConsistent allOn)
  | .serverNew => do
    match x.ctx with
    | none => fail (.unboundExecution "server creation")
    | some c =>
      let w ← get
      set { w with servers := w.servers.push { ctx := c } }
      pure (.server w.servers.size c)
  | .serverHandler i echo record => configure x i fun s => { s with handler := some (echo, record) }
  | .serverTls i tls => do
    orFail tls.validateServer
    configure x i fun s => { s with tls := some tls }
  | .serverNodelay i on => configure x i fun s => { s with nodelay := on }
  | .serverListen i addr => listen fs x i addr
  | .serverClose i tag => closeServer x i tag
  | .serverInfo i => do
    let s ← serverAt i
    pure (.serverInfo s.ctx s.listening.isSome s.listening.isSome s.connections.length)
  | .invalid reason => refuse reason

/-- Runs an operation from `x`; nested steps and settling get one unit of fuel less. -/
def runOp (fs : FileStore) : Nat → Exec → Op → World → Reply × World
  | 0, _, _, w => (.refused "steps nest too deeply", w)
  | fuel + 1, x, op, w => (step fs (runOp fs fuel) x op).finish w

/-- The order of events: off the workers first, then by context number. -/
def eventKey (e : Event) : Nat :=
  match e.ctx with
  | none => 0
  | some c => c.val + 1

/-- Joins consecutive data events of one context, connection and tag. -/
def joinData (es : List Event) : List Event :=
  (es.foldl (fun acc e =>
    match acc, e.note with
    | prev :: more, .data c t b =>
      match prev.note with
      | .data c' t' b' =>
        if prev.ctx == e.ctx && c == c' && t == t' then { prev with note := .data c t (b' ++ b) } :: more
        else e :: acc
      | _ => e :: acc
    | _, _ => e :: acc) []).reverse

/-- Events ordered by context, stable within one context, with data joined. -/
def arrange (es : List Event) : List Event :=
  joinData (es.mergeSort fun a b => eventKey a ≤ eventKey b)

/-- Runs one scenario step and settles; returns its answer and events. -/
def runStep (fs : FileStore) (w : World) (s : Step) : Reply × List Event × World :=
  let start := w.notes.size
  let exec := runOp fs stepFuel
  let (reply, w) : Reply × World := match s.context with
    | none => exec {} s.op w
    | some n =>
      if !w.known.contains n then (.refused ("context " ++ toString n ++ " was never created"), w)
      else match w.post ⟨n⟩ (.step s.op) with
        | .error e => (.failed e, w)
        | .ok w =>
          let (rs, w) := World.settle exec settleFuel [] w []
          (rs.headD (.refused "the step was dropped"), w)
  let (_, w) := World.settle exec settleFuel [] w []
  (reply, arrange (w.notes.extract start w.notes.size).toList, w)

/-- A world of `config.workers` workers whose contexts `1..W` belong to the script. -/
def startWorld (config : WorkerConfig) : World :=
  let n := config.workers
  let registry := (List.range n).foldl (fun r _ => r.createRoundRobin.2) { workerCount := n }
  let registry := (List.range n).foldl (fun r i => r.bind ⟨i + 1⟩) registry
  { config, registry, workers := Array.replicate n {}, known := (List.range n).map (· + 1) }

/-- Runs a scenario: the answers and events of its steps, and the ports the system was given. -/
def runScenario (fs : FileStore) (config : WorkerConfig) (steps : List Step) :
    Panicking (Except Error (List (Reply × List Event)) × List Nat) :=
  match config.validate with
  | .error e => .ok (.error e, [])
  | .ok () =>
    match config.spawnFailure 0 with
    | some (.panic m) => .error m
    | some (.refused e) => .ok (.error (.io e), [])
    | none =>
      let (outs, w) := steps.foldl (fun (outs, w) s =>
        let (r, es, w) := runStep fs w s
        (outs.push (r, es), w)) (#[], startWorld config)
      .ok (.ok outs.toList, w.ports)

end Affinity.Scenario
