import Affinity.Config.Environment
import Affinity.Context.Registry
import Affinity.Fanout.Hub
import Affinity.Net.Listen
import Affinity.Threads
/-!
The fan-out server program.

Every client that connects receives everything any client sends. The program reads its logging
settings and then its worker settings from the environment, installs its logger and starts a
runtime; on a context of its own it creates a server whose connections join the hub
(`Fanout.Hub`), and listens on the address given as its argument. A failure before it is ready
ends the program with status 1 and the error's structural form, and a panic (reading the filter,
or starting a thread) with status 101; once ready it serves until it is interrupted, then closes
the server and stops with status 0.

* `Record`: a log record (level, target, field names, message). `Startup.records` are those
  written while starting, in order; `Startup.shows` says which of them the active filter lets
  through.
* `Fanout.start` runs the start-up: the records and, if it got ready, the port it listens on
  and the contexts created so far.
* `Session.step` runs one command of a client session: a client joins (its connection gets a
  fresh context, round-robin, and joins the hub), leaves (its context's handler leaves the hub),
  or sends a chunk, which reaches every client still connected. Whether clients can reach the
  server at all is a parameter: when they cannot, joining reports a failed connect.
-/

namespace Affinity.Fanout

/-- A log record: its level, target and message, and the names of its fields (the message is
    one of them). -/
structure Record where
  level : LogLevel
  target : String
  fields : List String
  message : String
  deriving DecidableEq, Repr

/-- A program that is ready: the port it listens on and the contexts of its runtime. -/
structure Ready where
  port : Nat
  registry : Registry

/-- How starting the program ends. -/
inductive Outcome where
  /-- The program is ready. -/
  | ready (r : Ready)
  /-- An error stopped the program. -/
  | failed (e : Error)
  /-- The program panicked with this message. -/
  | panicked (message : String)

/-- Whether the program got ready. -/
def Outcome.isReady : Outcome → Bool
  | .ready _ => true
  | _ => false

/-- The outcome of starting the program. -/
structure Startup where
  /-- The records written while starting, in order. -/
  records : List Record
  /-- The directives of the installed logger, if one was installed. -/
  filter : Option (List Filter.Directive)
  /-- The logging format, if settings were read. -/
  format : Option LogFormat
  /-- How starting ended. -/
  outcome : Outcome

namespace Startup

/-- Whether the logger writes out a record. -/
def shows (s : Startup) (r : Record) : Bool :=
  match s.filter with
  | some ds => Filter.enables ds r.target r.fields r.level.rank
  | none => false

/-- The start-up records the logger writes out. -/
def visible (s : Startup) : List Record := s.records.filter s.shows

/-- The exit status once the program stops: 0 after an interrupt, 1 if an error stopped it,
    101 if it panicked. -/
def exitCode (s : Startup) : Nat :=
  match s.outcome with
  | .ready _ => 0
  | .failed _ => 1
  | .panicked _ => 101

/-- The lines the program writes when it stops before getting ready: the error's structural
    form, or the panic's message followed by the hint about backtraces. -/
def failureLines (s : Startup) : List String :=
  match s.outcome with
  | .ready _ => []
  | .failed e => ["Error: " ++ e.debug]
  | .panicked m =>
    [m, "note: run with \x60RUST_BACKTRACE=1\x60 environment variable to display a backtrace"]

end Startup

/-- The record of a program's own event, with its fields besides the message. -/
def event (message : String) (fields : List String) : Record :=
  { level := .info, target := "fanout", fields := "message" :: fields, message }

/-- The record of a worker thread the system refused. -/
def spawnFailed : Record :=
  { level := .error, target := "strand_core::worker", fields := ["message", "worker", "error"],
    message := "failed to spawn worker thread" }

/-- Runs the start-up with the environment `lookup`, listening on `addr`; `processors` is the
    worker count used when the settings leave it to the machine. -/
def start (lookup : String → Option String) (addr : String) (processors : Nat) : Startup :=
  match LogConfig.ofLookup lookup with
  | .error e => { records := [], filter := none, format := none, outcome := .failed e }
  | .ok log =>
    let format := some log.format
    match log.directives (lookup "RUST_LOG") with
    | .error m => { records := [], filter := none, format, outcome := .panicked m }
    | .ok (.error e) => { records := [], filter := none, format, outcome := .failed e }
    | .ok (.ok ds) =>
      let filter := some ds
      match WorkerConfig.ofLookup lookup with
      | .error e => { records := [], filter, format, outcome := .failed e }
      | .ok c =>
        match c.spawnFailure 0 with
        | some (.panic m) => { records := [], filter, format, outcome := .panicked m }
        | some (.refused e) => { records := [spawnFailed], filter, format, outcome := .failed (.io e) }
        | none =>
          let count := c.effectiveWorkers.getD processors
          let workers := (List.range count).map fun _ =>
            ({ level := .debug, target := "strand_core::worker", fields := ["message", "worker"],
               message := "worker started" } : Record)
          let started : List Record :=
            [{ level := .info, target := "strand_core::runtime",
               fields := ["message", "workers", "thread_name"], message := "runtime started" },
             { level := .trace, target := "strand_core::context",
               fields := ["message", "context", "worker"], message := "context created" }]
          let registry := (({ workerCount := count } : Registry).createRoundRobin).2
          match Net.requestedPort addr with
          | .error e => { records := workers ++ started, filter, format, outcome := .failed e }
          | .ok port =>
            let ready : List Record :=
              [{ level := .info, target := "strand_net::server",
                 fields := ["message", "address", "context", "tls"], message := "server listening" },
               event "fan-out server ready" ["address", "workers"]]
            { records := workers ++ started ++ ready, filter, format,
              outcome := .ready { port, registry } }

/-- A command of a client session. -/
inductive Command where
  | join
  | leave (client : Nat)
  | send (client : Nat) (data : String)
  deriving DecidableEq, Repr

/-- The answer to a command. -/
inductive Answer where
  | connectFailed
  /-- The new client's index, and whether its joining was logged. -/
  | joined (client : Nat) (logged : Bool)
  /-- The client that left, and whether its leaving was logged. -/
  | left (client : Nat) (logged : Bool)
  | noSuchClient
  /-- Whether the sender was connected, and what each client read (none once it left). -/
  | sent (ok : Bool) (received : List (Option String))
  deriving DecidableEq, Repr

/-- A client of a session: the context of its connection and its handler in the hub. -/
structure Client where
  ctx : ContextId
  handler : Nat
  connected : Bool

/-- A client session against a ready program. -/
structure Session where
  hub : Hub := {}
  registry : Registry
  clients : List Client := []

namespace Session

/-- Runs one command. `reachable` says whether clients can connect; `shows` whether a record is
    logged where the session sees it. Returns the answer and the records written. -/
def step (reachable : Bool) (shows : Record → Bool) (s : Session) :
    Command → Answer × List Record × Session
  | .join =>
    if !reachable then (.connectFailed, [], s)
    else
      let (ctx, registry) := s.registry.createRoundRobin
      let (id, hub) := s.hub.join ctx
      let r := event "client joined" ["handler_id", "peer"]
      (.joined s.clients.length (shows r), [r],
        { hub, registry, clients := s.clients ++ [{ ctx, handler := id, connected := true }] })
  | .leave i =>
    match s.clients[i]? with
    | some c =>
      if c.connected then
        let r := event "client left" ["handler_id"]
        (.left i (shows r), [r],
          { hub := s.hub.leave c.handler, registry := (s.registry.destroy c.ctx).2,
            clients := s.clients.set i { c with connected := false } })
      else (.noSuchClient, [], s)
    | none => (.noSuchClient, [], s)
  | .send i data =>
    let ok := (s.clients[i]?.map (·.connected)).getD false
    let reached := if ok then s.hub.deliveries.map (·.1) else []
    let received := s.clients.map fun c =>
      if c.connected then some (if reached.contains c.handler then data else "") else none
    (.sent ok received, [], s)

/-- Runs a script: the answers and the records written, in order. -/
def run (reachable : Bool) (shows : Record → Bool) (s : Session) :
    List Command → List Answer × List Record
  | [] => ([], [])
  | c :: rest =>
    let (a, rs, s) := s.step reachable shows c
    let (as, more) := s.run reachable shows rest
    (a :: as, rs ++ more)

/-- When clients cannot connect, every join reports a failed connect. -/
theorem step_join_unreachable (shows : Record → Bool) (s : Session) :
    (s.step false shows .join).1 = .connectFailed := rfl

end Session

/-- Whether a start-up got ready. -/
theorem exitCode_eq_zero_iff (s : Startup) : s.exitCode = 0 ↔ s.outcome.isReady := by
  unfold Startup.exitCode
  cases s.outcome <;> simp [Outcome.isReady]

end Affinity.Fanout
