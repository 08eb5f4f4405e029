import Affinity.Machine.Pool
import Affinity.Net.Lifecycle
/-!
A pool under concurrent callers.

A pool keeps its state behind one lock, and every call takes the lock for short critical
sections between which other threads run. `Sys` is a pool together with what is in flight
between those sections:

* requests admitted for a new connection that their thread has not recorded yet (`admitted`);
* the connections the pool opened (`conns`, numbered from 1): lifecycle state, owner, close
  hook, and how far the thread that opened each has got (`Stage`);
* hand-offs decided under the lock but not posted yet, closes and close notices a caller is
  still to make, and answers posted to a context that have not run yet;
* the destroyed contexts and whether the runtime still runs, which decide whether a post or a
  spawn succeeds.

`step` takes one critical section, made by the pool's own decisions (`Pool.grant`,
`Pool.checkIn`, `Pool.track`, `Pool.dropFailed`, `Pool.freeSlot`, `Pool.close`), one step of a
connection's thread, one call of a user, or one change of the surroundings. `Reachable` is
every state of every run from a fresh pool, in any order of the threads. A call that fails is no
step: it changes nothing.

Requests are numbered in arrival order. Beside the pool's queue of waiting contexts the system
keeps the waiting requests themselves (`queue`), which requests joined and left the queue, the
answers handlers were called with, and which handlers hold which connection.

Two steps merge sections that nothing else can tell apart: a connected transport answers the
requester and activates the connection in one step (activation only moves `connecting` to
`active`, which every other step treats alike), and a failed spawn aborts the connection at
once (no one else holds it yet).
-/

namespace Affinity

namespace PoolSystem

/-- An acquire request: its number in arrival order and the context that asked. -/
structure Request where
  seq : Nat
  ctx : ContextId
  deriving DecidableEq, Repr

/-- How far the thread that opened a connection has got. -/
inductive Stage where
  /-- Recorded as held; the connect task is not spawned yet. -/
  | spawning
  /-- The connect task waits for the transport. -/
  | dialing
  /-- The connect failed and the connection was aborted; its slot is not given back yet. The
      requester is still to be told `answer`, if there is one. -/
  | failing (answer : Option Error)
  /-- The requester was answered and the driver runs. -/
  | driving
  /-- The driver finished the close and took the close hook; the slot is not given back yet. -/
  | freeing
  | done
  deriving DecidableEq, Repr

/-- A connection the pool opened. -/
structure Conn where
  /-- The request it was opened for. -/
  req : Request
  state : ConnectionState := .connecting
  owner : ContextId
  /-- Whether the close hook is still set. -/
  hook : Bool := true
  stage : Stage := .spawning
  deriving DecidableEq, Repr

namespace Conn

/-- A failed connect aborts the connection: closed without a driver, the close hook dropped. -/
def fail (k : Conn) (answer : Option Error) : Conn :=
  { k with state := .closed, hook := false, stage := .failing answer }

/-- The driver starts: a connecting connection becomes active. -/
def activate (k : Conn) : Conn :=
  { k with stage := .driving, state := if k.state = .connecting then .active else k.state }

/-- Asks a connection to close: an open one moves to `closing`. -/
def close (k : Conn) : Conn := if k.state.isOpen then { k with state := .closing } else k

/-- The driver finishes the close: the connection becomes closed and the close hook is taken;
    a connection that was closed already is left as it is. -/
def finishClose (k : Conn) : Conn :=
  if k.state = .closed then { k with stage := .done }
  else { k with state := .closed, hook := false, stage := if k.hook then .freeing else .done }

end Conn

/-- A pool and everything in flight between its critical sections. -/
structure Sys where
  pool : Pool
  conns : List Conn := []
  admitted : List Request := []
  /-- Hand-offs decided under the lock: the connection and the request it goes to. -/
  handOffs : List (Nat × Request) := []
  /-- Connections a caller is still to ask to close. -/
  closing : List Nat := []
  /-- Requests `close` is still to tell that the pool closed. -/
  notices : List Request := []
  /-- Answers posted to the requester's context that have not run yet. -/
  inbox : List (Request × Except Error Nat) := []
  dead : List ContextId := []
  running : Bool := true
  /-- The number of the next request. -/
  seq : Nat := 0
  /-- The waiting requests, oldest first. -/
  queue : List Request := []
  /-- Every request that joined the queue, in order. -/
  enqueued : List Request := []
  /-- Every request that left the queue, in order. -/
  dequeued : List Request := []
  /-- The answers handlers were called with, in order. -/
  answers : List (Request × Except Error Nat) := []
  /-- Requests whose handler was given a connection that its context has not released. -/
  holders : List (Request × Nat) := []

namespace Sys

/-- A fresh pool. -/
def start (endpoint : Endpoint) (config : PoolConfig) (transport : PoolTransport) : Sys :=
  { pool := { endpoint, config, transport } }

/-- Connection `c`; connections are numbered from 1. -/
def conn? (s : Sys) : Nat → Option Conn
  | 0 => none
  | c + 1 => s.conns[c]?

/-- Updates connection `c`. -/
def modifyConn (s : Sys) (c : Nat) (f : Conn → Conn) : Sys :=
  { s with conns := match c with
    | 0 => s.conns
    | c + 1 => s.conns.modify c f }

/-- Whether work can still be posted or spawned on a context. -/
def alive (s : Sys) (ctx : ContextId) : Bool := s.running && !s.dead.contains ctx

/-- Whether a handler was ever given connection `c`: only then can a user have it. -/
def handedOut (s : Sys) (c : Nat) : Bool := s.answers.any (·.2.toOption == some c)

/-- A handler is called with an answer. -/
def answer (s : Sys) (r : Request) (a : Except Error Nat) : Sys :=
  { s with answers := s.answers ++ [(r, a)],
           holders := match a with
             | .ok c => s.holders ++ [(r, c)]
             | .error _ => s.holders }

/-- The slot a decision freed goes to the oldest waiting request, when the decision named one. -/
def admitNext (s : Sys) (next : Option ContextId) : Sys :=
  let taken := if next.isSome then s.queue.take 1 else []
  { s with queue := s.queue.drop taken.length, dequeued := s.dequeued ++ taken,
           admitted := s.admitted ++ taken }

/-- `acquire_on` from context `ctx`: refused for a destroyed context, else decided under the
    lock. -/
def acquire (s : Sys) (ctx : ContextId) : Except Error Sys :=
  if s.dead.contains ctx then .error (.unboundExecution "connection acquire")
  else
    let r : Request := ⟨s.seq, ctx⟩
    match s.pool.grant ctx with
    | .error e => .error e
    | .ok (.reuse c, p) =>
      .ok { s with pool := p, seq := s.seq + 1, handOffs := s.handOffs ++ [(c, r)] }
    | .ok (.connect _, p) =>
      match s.queue with
      | q :: rest =>
        .ok { s with pool := p, seq := s.seq + 1, queue := rest ++ [r], enqueued := s.enqueued ++ [r],
                     dequeued := s.dequeued ++ [q], admitted := s.admitted ++ [q] }
      | [] => .ok { s with pool := p, seq := s.seq + 1, admitted := s.admitted ++ [r] }
    | .ok (.queued, p) =>
      .ok { s with pool := p, seq := s.seq + 1, queue := s.queue ++ [r], enqueued := s.enqueued ++ [r] }

/-- Carries out what a check-in of connection `c` decided. -/
def afterCheckIn (s : Sys) (c : Nat) : CheckIn → Sys
  | .handOff _ =>
    match s.queue with
    | r :: rest => { s with queue := rest, dequeued := s.dequeued ++ [r], handOffs := s.handOffs ++ [(c, r)] }
    | [] => s
  | .idle => s
  | .close => { s with closing := s.closing ++ [c] }

/-- A check-in of connection `c` by `caller`, or by the pool itself (`none`) when it takes back
    a connection it could not hand over. -/
def checkIn (s : Sys) (c : Nat) (caller : Option ContextId) : Except Error Sys :=
  let isOpen := ((s.conn? c).map (·.state.isOpen)).getD false
  match s.pool.checkIn c caller isOpen s.pool.config.keepAlive with
  | .error e => .error e
  | .ok (d, p) => .ok ({ s with pool := p }.afterCheckIn c d)

/-- `release` of connection `c` from context `ctx`; the context's hold on it ends. -/
def release (s : Sys) (ctx : ContextId) (c : Nat) : Except Error Sys :=
  (s.checkIn c (some ctx)).map fun s =>
    { s with holders := s.holders.filter fun h => !(h.2 == c && h.1.ctx == ctx) }

/-- The thread of an admitted request opens its connection and records it as held. -/
def insert (s : Sys) (i : Nat) : Option Sys :=
  s.admitted[i]?.map fun r =>
    { s with admitted := s.admitted.eraseIdx i, conns := s.conns ++ [{ req := r, owner := r.ctx }],
             pool := s.pool.track (s.conns.length + 1) r.ctx }

/-- The opening thread spawns the connect task on the requester's context. When that fails the
    connection is aborted, and the requester's handler is dropped with the task. -/
def spawn (s : Sys) (c : Nat) : Option Sys :=
  match s.conn? c with
  | some k =>
    if k.stage = .spawning then
      some (if s.alive k.req.ctx then s.modifyConn c ({ · with stage := .dialing })
        else s.modifyConn c (·.fail none))
    else none
  | none => none

/-- The transport answers a connect task: `none` when the stream is up, else the failure's
    text. Once up, the requester is told that the pool closed if it has, else given the
    connection, and the driver starts. -/
def dial (s : Sys) (c : Nat) (failure : Option String) : Option Sys :=
  match s.conn? c with
  | some k =>
    if k.stage = .dialing then
      match failure with
      | none =>
        let s' := { s with pool := { s.pool with created := s.pool.created + 1 } }
        some ((s'.answer k.req (if s.pool.closed then .error .poolClosed else .ok c)).modifyConn c
          Conn.activate)
      | some msg =>
        some (s.modifyConn c (·.fail (some (.admission ("connect to " ++ s.pool.endpoint.display ++
          " failed: " ++ msg)))))
    else none
  | none => none

/-- The critical section of a failed connect: the attempt's slot is given back, possibly to the
    next waiter; then the requester is told the error, if it is to be. -/
def settle (s : Sys) (c : Nat) : Option Sys :=
  match s.conn? c with
  | some { req, stage := .failing answer, .. } =>
    let (next, p) := s.pool.dropFailed c
    let s := { s.modifyConn c ({ · with stage := .done }) with pool := p }
    let s := match answer with
      | some e => s.answer req (.error e)
      | none => s
    some (s.admitNext next)
  | _ => none

/-- The driver stops (a close item, the end of the peer's stream, or an error) and finishes the
    close. -/
def finish (s : Sys) (c : Nat) : Option Sys :=
  match s.conn? c with
  | some k => if k.stage = .driving then some (s.modifyConn c Conn.finishClose) else none
  | none => none

/-- The close hook's critical section: the closed connection's slot is given back, possibly to
    the next waiter. -/
def free (s : Sys) (c : Nat) : Option Sys :=
  match s.conn? c with
  | some k =>
    if k.stage = .freeing then
      let (next, p) := s.pool.freeSlot c
      some ({ s.modifyConn c ({ · with stage := .done }) with pool := p }.admitNext next)
    else none
  | none => none

/-- A decided hand-off: the connection is re-pinned to the request's context and the answer is
    posted there; if that context can take no work, the pool takes the connection back. -/
def handOff (s : Sys) (i : Nat) : Option Sys :=
  s.handOffs[i]?.map fun (c, r) =>
    let s := { s.modifyConn c ({ · with owner := r.ctx }) with
      handOffs := s.handOffs.eraseIdx i, pool := { s.pool with reused := s.pool.reused + 1 } }
    if s.alive r.ctx then { s with inbox := s.inbox ++ [(r, .ok c)] }
    else match s.checkIn c none with
      | .ok s => s
      | .error _ => s

/-- A caller asks a connection to close, after the lock is released. -/
def retire (s : Sys) (i : Nat) : Option Sys :=
  s.closing[i]?.map fun c => { s.modifyConn c Conn.close with closing := s.closing.eraseIdx i }

/-- `close` tells a waiting request that the pool closed, when its context can take work. -/
def notify (s : Sys) (i : Nat) : Option Sys :=
  s.notices[i]?.map fun r =>
    let s := { s with notices := s.notices.eraseIdx i }
    if s.alive r.ctx then { s with inbox := s.inbox ++ [(r, .error .poolClosed)] } else s

/-- A posted answer runs on its context. -/
def deliver (s : Sys) (i : Nat) : Option Sys :=
  s.inbox[i]?.map fun (r, a) => { s with inbox := s.inbox.eraseIdx i }.answer r a

/-- `close`: under the lock the pool is marked closed and its queues are emptied; then every
    waiting request is to be told, and every live connection asked to close. A second call
    does nothing. -/
def closePool (s : Sys) : Option Sys :=
  if s.pool.closed then none
  else
    let (_, live, p) := s.pool.close
    some { s with pool := p, queue := [], dequeued := s.dequeued ++ s.queue,
                  notices := s.notices ++ s.queue, closing := s.closing ++ live }

end Sys

/-- What can happen next: a call of a user, a step of one of the pool's threads, or a change of
    the surroundings. -/
inductive Action where
  | acquire (ctx : ContextId)
  | release (ctx : ContextId) (conn : Nat)
  /-- A user asks a connection it has to close. -/
  | closeConn (conn : Nat)
  | closePool
  | insert (i : Nat)
  | spawn (conn : Nat)
  | dial (conn : Nat) (failure : Option String)
  | settle (conn : Nat)
  | finish (conn : Nat)
  | free (conn : Nat)
  | handOff (i : Nat)
  | retire (i : Nat)
  | notify (i : Nat)
  | deliver (i : Nat)
  | destroy (ctx : ContextId)
  | shutdown
  deriving DecidableEq, Repr

namespace Sys

/-- One step; `none` when the action is not possible. Users release and close only connections
    that some handler was given. -/
def step (s : Sys) : Action → Option Sys
  | .acquire ctx => (s.acquire ctx).toOption
  | .release ctx c => if s.handedOut c then (s.release ctx c).toOption else none
  | .closeConn c => if s.handedOut c then some (s.modifyConn c Conn.close) else none
  | .closePool => s.closePool
  | .insert i => s.insert i
  | .spawn c => s.spawn c
  | .dial c failure => s.dial c failure
  | .settle c => s.settle c
  | .finish c => s.finish c
  | .free c => s.free c
  | .handOff i => s.handOff i
  | .retire i => s.retire i
  | .notify i => s.notify i
  | .deliver i => s.deliver i
  | .destroy ctx => some { s with dead := s.dead ++ [ctx] }
  | .shutdown => some { s with running := false }

/-- Takes the actions in order; `none` when one of them is not possible. -/
def run (s : Sys) : List Action → Option Sys
  | [] => some s
  | a :: as => (s.step a).bind (·.run as)

end Sys

/-- The states a pool reaches from a fresh start, in any order of its threads. -/
inductive Reachable : Sys → Prop where
  | start (endpoint : Endpoint) (config : PoolConfig) (transport : PoolTransport) :
      Reachable (Sys.start endpoint config transport)
  | step {s s' : Sys} (a : Action) : Reachable s → s.step a = some s' → Reachable s'

theorem countP_modify {α : Type} (q : α → Bool) (f : α → α) :
    ∀ (l : List α) (i : Nat) (a : α), l[i]? = some a →
      (l.modify i f).countP q + (if q a then 1 else 0) = l.countP q + (if q (f a) then 1 else 0)
  | [], _, _, h => by simp at h
  | b :: l, 0, a, h => by
    simp only [List.getElem?_cons_zero, Option.some.injEq] at h
    subst h
    simp only [List.modify_zero_cons, List.countP_cons]
    omega
  | b :: l, i + 1, a, h => by
    simp only [List.getElem?_cons_succ] at h
    have := countP_modify q f l i a h
    simp only [List.modify_succ_cons, List.countP_cons]
    omega

theorem countP_eraseIdx {α : Type} (q : α → Bool) :
    ∀ (l : List α) (i : Nat) (a : α), l[i]? = some a →
      (l.eraseIdx i).countP q + (if q a then 1 else 0) = l.countP q
  | [], _, _, h => by simp at h
  | b :: l, 0, a, h => by
    simp only [List.getElem?_cons_zero, Option.some.injEq] at h
    subst h
    simp only [List.eraseIdx_cons_zero, List.countP_cons]
  | b :: l, i + 1, a, h => by
    simp only [List.getElem?_cons_succ] at h
    have := countP_eraseIdx q l i a h
    simp only [List.eraseIdx_cons_succ, List.countP_cons]
    omega

theorem map_modify_of_forall {α β : Type} (g : α → β) (f : α → α) (hf : ∀ a, g (f a) = g a) :
    ∀ (l : List α) (i : Nat), (l.modify i f).map g = l.map g
  | [], _ => by simp
  | a :: l, 0 => by simp [hf]
  | a :: l, i + 1 => by simp [map_modify_of_forall g f hf l i]

/-- An answer carries a connection only when it is one. -/
@[simp] theorem toOption_ok {ε α : Type} (a : α) : (Except.ok a : Except ε α).toOption = some a := rfl

@[simp] theorem toOption_error {ε α : Type} (e : ε) : (Except.error e : Except ε α).toOption = none := rfl

namespace Sys

@[simp] theorem conn?_zero (s : Sys) : s.conn? 0 = none := rfl

theorem conn?_modifyConn (s : Sys) (c c' : Nat) (f : Conn → Conn) :
    (s.modifyConn c f).conn? c' = if c' = c then (s.conn? c').map f else s.conn? c' := by
  cases c with
  | zero => cases c' <;> simp [modifyConn, conn?]
  | succ c =>
    cases c' with
    | zero => simp [conn?]
    | succ c' =>
      by_cases h : c' = c
      · subst h; simp [modifyConn, conn?]
      · simp [modifyConn, conn?, List.getElem?_modify_ne _ _ (Ne.symm h), h]

@[simp] theorem conn?_modifyConn_self (s : Sys) (c : Nat) (f : Conn → Conn) :
    (s.modifyConn c f).conn? c = (s.conn? c).map f := by
  simp [conn?_modifyConn]

theorem conn?_modifyConn_of_ne (s : Sys) {c c' : Nat} (f : Conn → Conn) (h : c' ≠ c) :
    (s.modifyConn c f).conn? c' = s.conn? c' := by
  simp [conn?_modifyConn, h]

@[simp] theorem length_conns_modifyConn (s : Sys) (c : Nat) (f : Conn → Conn) :
    (s.modifyConn c f).conns.length = s.conns.length := by
  cases c <;> simp [modifyConn]

/-- An update that keeps each connection's request keeps the requests of the connections. -/
theorem conns_req_modifyConn (s : Sys) (c : Nat) {f : Conn → Conn} (hf : ∀ k, (f k).req = k.req) :
    (s.modifyConn c f).conns.map (·.req) = s.conns.map (·.req) := by
  cases c with
  | zero => rfl
  | succ c => exact map_modify_of_forall _ f hf s.conns c

theorem conn?_eq_some_iff {s : Sys} {c : Nat} {k : Conn} :
    s.conn? c = some k ↔ 1 ≤ c ∧ s.conns[c - 1]? = some k := by
  cases c <;> simp [conn?]

theorem mem_conns_of_conn? {s : Sys} {c : Nat} {k : Conn} (h : s.conn? c = some k) : k ∈ s.conns :=
  List.mem_of_getElem? (conn?_eq_some_iff.1 h).2

theorem conn?_of_conns {s t : Sys} (h : t.conns = s.conns) (c : Nat) : t.conn? c = s.conn? c := by
  cases c <;> simp [conn?, h]

@[simp] theorem pool_modifyConn (s : Sys) (c : Nat) (f : Conn → Conn) :
    (s.modifyConn c f).pool = s.pool := rfl

@[simp] theorem holders_modifyConn (s : Sys) (c : Nat) (f : Conn → Conn) :
    (s.modifyConn c f).holders = s.holders := rfl

@[simp] theorem inbox_modifyConn (s : Sys) (c : Nat) (f : Conn → Conn) :
    (s.modifyConn c f).inbox = s.inbox := rfl

@[simp] theorem handOffs_modifyConn (s : Sys) (c : Nat) (f : Conn → Conn) :
    (s.modifyConn c f).handOffs = s.handOffs := rfl

@[simp] theorem admitted_modifyConn (s : Sys) (c : Nat) (f : Conn → Conn) :
    (s.modifyConn c f).admitted = s.admitted := rfl

@[simp] theorem answers_modifyConn (s : Sys) (c : Nat) (f : Conn → Conn) :
    (s.modifyConn c f).answers = s.answers := rfl

@[simp] theorem notices_modifyConn (s : Sys) (c : Nat) (f : Conn → Conn) :
    (s.modifyConn c f).notices = s.notices := rfl

@[simp] theorem queue_modifyConn (s : Sys) (c : Nat) (f : Conn → Conn) :
    (s.modifyConn c f).queue = s.queue := rfl

theorem conn?_isSome_iff {s : Sys} {c : Nat} : (s.conn? c).isSome ↔ 1 ≤ c ∧ c ≤ s.conns.length := by
  cases c with
  | zero => simp [conn?]
  | succ c => simp only [conn?, isSome_getElem?]; omega

@[simp] theorem pool_answer (s : Sys) (r : Request) (a : Except Error Nat) : (s.answer r a).pool = s.pool := rfl

@[simp] theorem conns_answer (s : Sys) (r : Request) (a : Except Error Nat) :
    (s.answer r a).conns = s.conns := rfl

@[simp] theorem conn?_answer (s : Sys) (r : Request) (a : Except Error Nat) (c : Nat) :
    (s.answer r a).conn? c = s.conn? c := conn?_of_conns rfl c

@[simp] theorem queue_answer (s : Sys) (r : Request) (a : Except Error Nat) :
    (s.answer r a).queue = s.queue := rfl

@[simp] theorem admitted_answer (s : Sys) (r : Request) (a : Except Error Nat) :
    (s.answer r a).admitted = s.admitted := rfl

@[simp] theorem inbox_answer (s : Sys) (r : Request) (a : Except Error Nat) :
    (s.answer r a).inbox = s.inbox := rfl

@[simp] theorem handOffs_answer (s : Sys) (r : Request) (a : Except Error Nat) :
    (s.answer r a).handOffs = s.handOffs := rfl

@[simp] theorem notices_answer (s : Sys) (r : Request) (a : Except Error Nat) :
    (s.answer r a).notices = s.notices := rfl

@[simp] theorem answers_answer (s : Sys) (r : Request) (a : Except Error Nat) :
    (s.answer r a).answers = s.answers ++ [(r, a)] := rfl

@[simp] theorem holders_answer_ok (s : Sys) (r : Request) (c : Nat) :
    (s.answer r (.ok c)).holders = s.holders ++ [(r, c)] := rfl

@[simp] theorem holders_answer_error (s : Sys) (r : Request) (e : Error) :
    (s.answer r (.error e)).holders = s.holders := rfl

@[simp] theorem pool_admitNext (s : Sys) (next : Option ContextId) : (s.admitNext next).pool = s.pool := rfl

@[simp] theorem conns_admitNext (s : Sys) (next : Option ContextId) : (s.admitNext next).conns = s.conns := rfl

/-- Updating a connection that does not exist changes nothing. -/
theorem conns_modifyConn_of_none {s : Sys} {c : Nat} (f : Conn → Conn) (h : s.conn? c = none) :
    (s.modifyConn c f).conns = s.conns := by
  cases c with
  | zero => rfl
  | succ c => exact List.modify_eq_self (List.getElem?_eq_none_iff.1 h)

theorem conn?_append_new {s t : Sys} {k : Conn} (h : t.conns = s.conns ++ [k]) (c : Nat) :
    t.conn? c = if c = s.conns.length + 1 then some k else s.conn? c := by
  cases c with
  | zero => simp [conn?]
  | succ c =>
    simp only [conn?, h, Nat.add_right_cancel_iff]
    rw [List.getElem?_append]
    split <;> split <;> simp_all <;> omega

/-- The number a new connection gets names no connection yet. -/
@[simp] theorem conn?_new (s : Sys) : s.conn? (s.conns.length + 1) = none := by
  simp [conn?]

/-- Appending a connection keeps every existing one under its number. -/
theorem conn?_append_of_some {s t : Sys} {k k' : Conn} {c : Nat} (h : t.conns = s.conns ++ [k])
    (hk : s.conn? c = some k') : t.conn? c = some k' := by
  have hle := (conn?_isSome_iff.1 (by simp [hk] : (s.conn? c).isSome)).2
  rw [conn?_append_new h, if_neg (by omega)]
  exact hk

/-- Counting the connections that meet `q`: an update changes the count only through the
    connection it updates. -/
theorem countP_modifyConn (s : Sys) {c : Nat} {k : Conn} (q : Conn → Bool) (f : Conn → Conn)
    (h : s.conn? c = some k) :
    (s.modifyConn c f).conns.countP q + (if q k then 1 else 0) =
      s.conns.countP q + (if q (f k) then 1 else 0) := by
  cases c with
  | zero => simp at h
  | succ c => exact countP_modify q f s.conns c k h

end Sys

/-- A property that every step keeps holds along every run. -/
theorem Sys.run_inv (P : Sys → Prop) (hstep : ∀ {t t' : Sys} {a : Action}, P t → t.step a = some t' → P t')
    {as : List Action} {s s' : Sys} (hs : P s) (h : s.run as = some s') : P s' := by
  induction as generalizing s with
  | nil => simp only [Sys.run, Option.some.injEq] at h; exact h ▸ hs
  | cons a as ih =>
    simp only [Sys.run, Option.bind_eq_some_iff] at h
    obtain ⟨t, ht, h⟩ := h
    exact ih (hstep hs ht) h

theorem Reachable.run {s s' : Sys} {as : List Action} (hs : Reachable s) (h : s.run as = some s') :
    Reachable s' :=
  Sys.run_inv Reachable (fun ht hstep => .step _ ht hstep) hs h

end PoolSystem

end Affinity
