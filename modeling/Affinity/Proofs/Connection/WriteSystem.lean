import Affinity.Proofs.Connection.WritePath
/-!
The write path of a connection under every interleaving of the threads around it.

Writers, closers and the connection's driver act on the write path at once. `Step id x t` is one
atomic step of any of them around connection `id`, whose driver runs as `x` in task `t`:

* a writer's section: `check` that the connection is open (reading its owner), `count` the
  bytes, `flag` a due drain, and `send` the item, or `refuse` when no driver takes items;
* a `close`, and a change of the queue `limit`;
* one round of the driver's loop: `take` the next item, `push` what the pipe takes of it
  (`pushPart` when it takes less than all), `stop` at the close marker, stop at a `broken` pipe
  or at the end of the stream (`finish`), `read`, or `notice` a pause change;
* the peer reading from the outgoing pipe (`peerRead`) or going away (`hangUp`);
* anything else that leaves the write path alone (`env`).

Each is made by the model's own function. The `Ghost` keeps the writes in flight and what the
run delivered: the Ok writes queued ahead of the close marker and behind it, the bytes the peer
read, the completions dispatched, how the driver stopped, and the drains announced.

`Move` is the same steps over views (`World.writeView`); `Step.move` reads every step as a move,
so that an invariant is proved once per move and never opens the model's functions
(`Reach.snap`). `write_reach`: a write made in one piece is a run of its sections.
`driveLoop_reach`: each poll of the driver is a run of the driver's steps. Conversely `Leads`
says the model makes a move from every world with the move's view, so a schedule is written over
views alone (`leads_check` … `leads_stop`).
-/

namespace Affinity

namespace WritePath

/-- The bytes of a byte array, in order. -/
def octets (b : ByteArray) : List UInt8 := b.data.toList

/-- How far a write has got between its open check and its return. -/
inductive Stage where
  /-- It found the connection open and read its owner. -/
  | checked
  /-- Its bytes are counted; `due` says whether the count reached the limit. -/
  | counted (due : Bool)
  /-- It has made a drain due if its count reached the limit. -/
  | flagged
  deriving DecidableEq, Repr

/-- A write between its open check and its return: its bytes, where its completion goes, and
    how far it has got. -/
structure Flight where
  bytes : ByteArray
  done : Option (ContextId × String)
  stage : Stage

/-- How the driver stopped. -/
inductive Stop where
  /-- It took the close marker off the queue. -/
  | marker
  /-- The pipe broke or the stream ended. -/
  | fault
  deriving DecidableEq, Repr

/-- What held when a drain was announced. -/
structure Drain where
  /-- Some write's flag section had made the drain due since the drain before. -/
  flagged : Bool
  /-- Some write's count had reached the limit since the drain before. -/
  reached : Bool
  deriving DecidableEq, Repr

/-- What has happened on the write path, beyond what the world keeps. -/
structure Ghost where
  /-- The writes between their open check and their return. -/
  flights : List Flight := []
  /-- The Ok writes whose items were queued ahead of any close marker, oldest first. -/
  ahead : List (ByteArray × Option (ContextId × String)) := []
  /-- The Ok writes whose items were queued behind the close marker, oldest first. -/
  behind : List ByteArray := []
  /-- Whether a close has queued its marker. -/
  marked : Bool := false
  /-- Whether a close ran while some write was in flight. -/
  raced : Bool := false
  /-- The bytes the peer has read off the outgoing pipe. -/
  received : List UInt8 := []
  /-- The completions the driver has dispatched, oldest first. -/
  completed : List (ContextId × String) := []
  /-- How the driver stopped, once it has. -/
  stop : Option Stop := none
  /-- Whether some write was in flight when the driver stopped. -/
  busyAtStop : Bool := false
  /-- Whether a write's flag section has made a drain due since the last drain was announced. -/
  flagged : Bool := false
  /-- Whether a write's count has reached the limit since the last drain was announced. -/
  reached : Bool := false
  /-- The drains announced, oldest first. -/
  drains : List Drain := []

/-- A world, and what has happened on the write path in it. -/
structure St where
  world : World
  ghost : Ghost

/-- Whether a flush of `len` bytes announces a drain: a drain is due and the count left is at
    most half the limit. -/
def View.drainsAt (v : View) (len : Nat) : Bool :=
  decide (v.queued - len ≤ v.queueMax / 2) && v.drainPending

/-- The ghost after a flush that announces a drain or not. -/
def Ghost.flush (g : Ghost) (drain : Bool) : Ghost :=
  { g with
    drains := if drain then g.drains ++ [⟨g.flagged, g.reached⟩] else g.drains
    flagged := g.flagged && !drain
    reached := g.reached && !drain }

/-- The ghost once the driver has stopped. -/
def Ghost.halt (g : Ghost) (how : Stop) : Ghost :=
  { g with stop := some how, busyAtStop := !g.flights.isEmpty }

/-- One atomic step around connection `id`, whose driver runs as `x` in task `t`. -/
inductive Step (id : Nat) (x : Exec) (t : Nat) : St → St → Prop where
  | check {w : World} {g : Ghost} {c : Connection} (bytes : ByteArray) (tag : Option String)
      (hc : w.conn? id = some c) (ho : c.state.isOpen = true) :
      Step id x t ⟨w, g⟩ ⟨w, { g with flights := g.flights ++ [⟨bytes, tag.map (c.owner, ·), .checked⟩] }⟩
  | count {w : World} {g : Ghost} {f : Flight} (i : Nat) (hf : g.flights[i]? = some f)
      (hs : f.stage = .checked) :
      Step id x t ⟨w, g⟩ ⟨(w.writeCount id f.bytes.size).2,
        { g with
          flights := g.flights.set i { f with stage := .counted (w.writeCount id f.bytes.size).1 }
          reached := g.reached || (w.writeCount id f.bytes.size).1 }⟩
  | flag {w : World} {g : Ghost} {f : Flight} {due : Bool} (i : Nat) (hf : g.flights[i]? = some f)
      (hs : f.stage = .counted due) :
      Step id x t ⟨w, g⟩ ⟨w.writeFlag id due,
        { g with flights := g.flights.set i { f with stage := .flagged }, flagged := g.flagged || due }⟩
  /-- The item goes to the driver and the write returns Ok; it lands behind the close marker if
      one is queued. -/
  | send {w : World} {g : Ghost} {f : Flight} {c : Connection} (y : Exec) (i : Nat)
      (hf : g.flights[i]? = some f) (hs : f.stage = .flagged) (hc : w.conn? id = some c)
      (hh : c.driverHeld = true) :
      Step id x t ⟨w, g⟩ ⟨(w.writeSend y id f.bytes f.done).2, { g with
        flights := g.flights.eraseIdx i
        ahead := if g.marked then g.ahead else g.ahead ++ [(f.bytes, f.done)]
        behind := if g.marked then g.behind ++ [f.bytes] else g.behind }⟩
  /-- No driver takes items: the count is taken back and the write fails. -/
  | refuse {w : World} {g : Ghost} {f : Flight} {c : Connection} (y : Exec) (i : Nat)
      (hf : g.flights[i]? = some f) (hs : f.stage = .flagged) (hc : w.conn? id = some c)
      (hh : c.driverHeld = false) :
      Step id x t ⟨w, g⟩ ⟨(w.writeSend y id f.bytes f.done).2, { g with flights := g.flights.eraseIdx i }⟩
  /-- Code running as `y` closes the open connection. -/
  | close {w : World} {g : Ghost} {c : Connection} (y : Exec) (hc : w.conn? id = some c)
      (ho : c.state.isOpen = true) :
      Step id x t ⟨w, g⟩ ⟨w.close y id,
        { g with marked := g.marked || c.driverHeld, raced := g.raced || !g.flights.isEmpty }⟩
  | limit {w : World} {g : Ghost} (m : Nat) : Step id x t ⟨w, g⟩ ⟨w.setQueueMax id m, g⟩
  | take {w : World} {g : Ghost} {c : Connection} (bytes : ByteArray) (done : Option (ContextId × String))
      (more : List Outbound) (hs : g.stop = none) (hc : w.conn? id = some c) (hd : c.driver = .selecting)
      (ho : c.outbound = .data bytes done :: more) :
      Step id x t ⟨w, g⟩ ⟨w.modifyConn id ({ · with outbound := more, driver := .writing bytes bytes.size done }), g⟩
  /-- The pipe takes all that is left of the item: the item is accounted for, a due drain may
      be announced, and the completion goes to the context that wrote it. -/
  | push {w : World} {g : Ghost} {c : Connection} (d : Nat) (rest : ByteArray) (len : Nat)
      (done : Option (ContextId × String)) (pipe : Net.Pipe) (hs : g.stop = none) (hc : w.conn? id = some c)
      (hd : c.driver = .writing rest len done) (hdup : c.duplex = some d)
      (hw : (w.duplexes[d]?.getD {}).toPeer.write rest = some (rest.size, pipe)) :
      Step id x t ⟨w, g⟩ ⟨(((w.modifyDuplex d fun d => { d with toPeer := pipe }).modifyConn id
          ({ · with driver := .selecting })).wrote x id len).dispatch x done,
        { g.flush ((View.of c w.duplexes).drainsAt len) with completed := g.completed ++ done.toList }⟩
  | pushPart {w : World} {g : Ghost} {c : Connection} (d : Nat) (rest : ByteArray) (len : Nat)
      (done : Option (ContextId × String)) (n : Nat) (pipe : Net.Pipe) (hs : g.stop = none)
      (hc : w.conn? id = some c) (hd : c.driver = .writing rest len done) (hdup : c.duplex = some d)
      (hw : (w.duplexes[d]?.getD {}).toPeer.write rest = some (n, pipe)) (hn : n ≠ rest.size) :
      Step id x t ⟨w, g⟩ ⟨(w.modifyDuplex d fun d => { d with toPeer := pipe }).modifyConn id
          ({ · with driver := .writing (rest.extract n rest.size) len done }), g⟩
  /-- The pipe is broken: the item is accounted for and the driver stops with an error. -/
  | broken {w : World} {g : Ghost} {c : Connection} (d : Nat) (rest : ByteArray) (len : Nat)
      (done : Option (ContextId × String)) (hs : g.stop = none) (hc : w.conn? id = some c)
      (hd : c.driver = .writing rest len done) (hdup : c.duplex = some d)
      (hw : (w.duplexes[d]?.getD {}).toPeer.write rest = none) :
      Step id x t ⟨w, g⟩ ⟨(w.wrote x id len).stopDriver x t id (some (.io { kind := .brokenPipe })),
        (g.flush ((View.of c w.duplexes).drainsAt len)).halt .fault⟩
  | stop {w : World} {g : Ghost} {c : Connection} (more : List Outbound) (hs : g.stop = none)
      (hc : w.conn? id = some c) (hd : c.driver = .selecting) (ho : c.outbound = .close :: more) :
      Step id x t ⟨w, g⟩ ⟨(w.modifyConn id ({ · with outbound := more })).stopDriver x t id none, g.halt .marker⟩
  | read {w : World} {g : Ghost} {c : Connection} (d : Nat) (b : ByteArray) (hs : g.stop = none)
      (hc : w.conn? id = some c) (hd : c.driver = .selecting) (ho : c.outbound = []) (hp : c.paused = false)
      (hdup : c.duplex = some d) (hr : ((w.duplexes[d]?.getD {}).toLocal.read readChunk).1 = .bytes b) :
      Step id x t ⟨w, g⟩ ⟨(w.modifyDuplex d fun d => { d with toLocal := (d.toLocal.read readChunk).2 }).emit x id
          (.connData id · b), g⟩
  | finish {w : World} {g : Ghost} {c : Connection} (d : Nat) (hs : g.stop = none) (hc : w.conn? id = some c)
      (hd : c.driver = .selecting) (ho : c.outbound = []) (hp : c.paused = false) (hdup : c.duplex = some d)
      (hr : ((w.duplexes[d]?.getD {}).toLocal.read readChunk).1 = .endOfStream) :
      Step id x t ⟨w, g⟩ ⟨(w.emit x id (.connSignal id · .finish)).stopDriver x t id none, g.halt .fault⟩
  | notice {w : World} {g : Ghost} {c : Connection} (hs : g.stop = none) (hc : w.conn? id = some c) :
      Step id x t ⟨w, g⟩ ⟨w.modifyConn id ({ · with seenVersion := c.pauseVersion }), g⟩
  | peerRead {w : World} {g : Ghost} {c : Connection} (d k : Nat) (b : ByteArray) (hc : w.conn? id = some c)
      (hdup : c.duplex = some d) (hr : ((w.duplexes[d]?.getD {}).toPeer.read k).1 = .bytes b) :
      Step id x t ⟨w, g⟩ ⟨w.modifyDuplex d fun p => { p with toPeer := (p.toPeer.read k).2 },
        { g with received := g.received ++ octets b }⟩
  | hangUp {w : World} {g : Ghost} {c : Connection} (d : Nat) (hc : w.conn? id = some c)
      (hdup : c.duplex = some d) :
      Step id x t ⟨w, g⟩ ⟨w.modifyDuplex d (·.dropPeer), g⟩
  /-- Anything else that happens in the world, leaving the write path alone. -/
  | env {w w' : World} {g : Ghost} (h : w'.writeView id = w.writeView id) : Step id x t ⟨w, g⟩ ⟨w', g⟩

/-- The states reached from `s` by any number of steps. -/
inductive Reach (id : Nat) (x : Exec) (t : Nat) : St → St → Prop where
  | refl (s : St) : Reach id x t s s
  | step {s u v : St} : Reach id x t s u → Step id x t u v → Reach id x t s v

theorem Reach.trans {id : Nat} {x : Exec} {t : Nat} {s u v : St} (h₁ : Reach id x t s u)
    (h₂ : Reach id x t u v) : Reach id x t s v := by
  induction h₂ with
  | refl => exact h₁
  | step _ hs ih => exact .step ih hs

theorem Reach.single {id : Nat} {x : Exec} {t : Nat} {s u : St} (h : Step id x t s u) : Reach id x t s u :=
  .step (.refl s) h

/-! ### Steps over views -/

/-- A view of the write path with its ghost. -/
structure Snap where
  view : View
  ghost : Ghost

/-- What one step does to the write path, on views: each constructor is one step. -/
inductive Move : Snap → Snap → Prop where
  /-- Nothing that the write path sees. -/
  | stay (s : Snap) : Move s s
  | check {v : View} {g : Ghost} (f : Flight) (ho : v.state.isOpen = true) (hs : f.stage = .checked) :
      Move ⟨v, g⟩ ⟨v, { g with flights := g.flights ++ [f] }⟩
  | count {v : View} {g : Ghost} {f : Flight} (i : Nat) (hf : g.flights[i]? = some f) (hs : f.stage = .checked) :
      Move ⟨v, g⟩ ⟨{ v with queued := v.queued + f.bytes.size },
        { g with
          flights := g.flights.set i { f with stage := .counted (decide (v.queued + f.bytes.size ≥ v.queueMax)) }
          reached := g.reached || decide (v.queued + f.bytes.size ≥ v.queueMax) }⟩
  | flag {v : View} {g : Ghost} {f : Flight} {due : Bool} (i : Nat) (hf : g.flights[i]? = some f)
      (hs : f.stage = .counted due) :
      Move ⟨v, g⟩ ⟨{ v with drainPending := v.drainPending || due },
        { g with flights := g.flights.set i { f with stage := .flagged }, flagged := g.flagged || due }⟩
  | send {v : View} {g : Ghost} {f : Flight} (i : Nat) (hf : g.flights[i]? = some f) (hs : f.stage = .flagged)
      (hh : v.driverHeld = true) :
      Move ⟨v, g⟩ ⟨{ v with outbound := v.outbound ++ [.data f.bytes f.done] }, { g with
        flights := g.flights.eraseIdx i
        ahead := if g.marked then g.ahead else g.ahead ++ [(f.bytes, f.done)]
        behind := if g.marked then g.behind ++ [f.bytes] else g.behind }⟩
  | refuse {v : View} {g : Ghost} {f : Flight} (i : Nat) (hf : g.flights[i]? = some f) (hs : f.stage = .flagged)
      (hh : v.driverHeld = false) :
      Move ⟨v, g⟩ ⟨{ v with queued := v.queued - f.bytes.size }, { g with flights := g.flights.eraseIdx i }⟩
  | close {v : View} {g : Ghost} (ho : v.state.isOpen = true) :
      Move ⟨v, g⟩ ⟨{ v with
          state := .closing, outbound := if v.driverHeld then v.outbound ++ [.close] else v.outbound },
        { g with marked := g.marked || v.driverHeld, raced := g.raced || !g.flights.isEmpty }⟩
  | limit {v : View} {g : Ghost} (m : Nat) : Move ⟨v, g⟩ ⟨{ v with queueMax := Nat.max m 1 }, g⟩
  | take {v : View} {g : Ghost} (bytes : ByteArray) (done : Option (ContextId × String)) (more : List Outbound)
      (hs : g.stop = none) (hd : v.driver = .selecting) (ho : v.outbound = .data bytes done :: more) :
      Move ⟨v, g⟩ ⟨{ v with outbound := more, driver := .writing bytes bytes.size done }, g⟩
  | push {v : View} {g : Ghost} (rest : ByteArray) (len : Nat) (done : Option (ContextId × String))
      (p pipe : Net.Pipe) (hs : g.stop = none) (hd : v.driver = .writing rest len done) (hp : v.pipe = some p)
      (hw : p.write rest = some (rest.size, pipe)) :
      Move ⟨v, g⟩ ⟨{ v with
          driver := .selecting, queued := v.queued - len, pipe := some pipe
          drainPending := v.drainPending && !decide (v.queued - len ≤ v.queueMax / 2) },
        { g.flush (v.drainsAt len) with completed := g.completed ++ done.toList }⟩
  | pushPart {v : View} {g : Ghost} (rest : ByteArray) (len : Nat) (done : Option (ContextId × String))
      (p pipe : Net.Pipe) (n : Nat) (hs : g.stop = none) (hd : v.driver = .writing rest len done)
      (hp : v.pipe = some p) (hw : p.write rest = some (n, pipe)) (hn : n ≠ rest.size) :
      Move ⟨v, g⟩ ⟨{ v with driver := .writing (rest.extract n rest.size) len done, pipe := some pipe }, g⟩
  | broken {v : View} {g : Ghost} (rest : ByteArray) (len : Nat) (done : Option (ContextId × String))
      (p : Net.Pipe) (hs : g.stop = none) (hd : v.driver = .writing rest len done) (hp : v.pipe = some p)
      (hw : p.write rest = none) :
      Move ⟨v, g⟩ ⟨{ v with
          queued := v.queued - len
          drainPending := v.drainPending && !decide (v.queued - len ≤ v.queueMax / 2) }.stopped,
        (g.flush (v.drainsAt len)).halt .fault⟩
  | stop {v : View} {g : Ghost} (more : List Outbound) (hs : g.stop = none) (hd : v.driver = .selecting)
      (ho : v.outbound = .close :: more) :
      Move ⟨v, g⟩ ⟨v.stopped, g.halt .marker⟩
  | finish {v : View} {g : Ghost} (hs : g.stop = none) (hd : v.driver = .selecting) (ho : v.outbound = []) :
      Move ⟨v, g⟩ ⟨v.stopped, g.halt .fault⟩
  | peerRead {v : View} {g : Ghost} (p : Net.Pipe) (k : Nat) (b : ByteArray) (hp : v.pipe = some p)
      (hr : (p.read k).1 = .bytes b) :
      Move ⟨v, g⟩ ⟨{ v with pipe := some (p.read k).2 }, { g with received := g.received ++ octets b }⟩
  | hangUp {v : View} {g : Ghost} (p : Net.Pipe) (hp : v.pipe = some p) :
      Move ⟨v, g⟩ ⟨{ v with pipe := some p.close }, g⟩


section Moves

variable {id : Nat} {x : Exec} {t : Nat} {w : World} {c : Connection} {v : View}

theorem view_eq_of (hc : w.conn? id = some c) (hv : w.writeView id = some v) : v = View.of c w.duplexes := by
  rw [World.writeView_of hc] at hv
  exact (Option.some.inj hv).symm

/-- The outgoing pipe of a view is the one the driver looks up. -/
theorem pipe_of {d : Nat} (hd : c.duplex = some d) (hp : (View.of c w.duplexes).pipe.isSome) :
    ∃ q, w.duplexes[d]? = some q ∧ (View.of c w.duplexes).pipe = some q.toPeer := by
  cases hq : w.duplexes[d]? with
  | none => simp [View.of, hd, hq] at hp
  | some q => exact ⟨q, rfl, by simp [View.of, hd, hq]⟩

/-- Every step is a move of the write path's view, as long as the outgoing pipe exists. -/
theorem Step.move {s s' : St} (h : Step id x t s s') (hv : s.world.writeView id = some v) (hp : v.pipe.isSome) :
    ∃ v', s'.world.writeView id = some v' ∧ Move ⟨v, s.ghost⟩ ⟨v', s'.ghost⟩ := by
  cases h with
  | check bytes tag hc ho =>
    obtain rfl := view_eq_of hc hv
    exact ⟨_, hv, .check _ ho rfl⟩
  | count i hf hs =>
    rw [World.writeCount_due _ hv]
    exact ⟨_, by rw [World.writeView_writeCount, hv]; rfl, .count i hf hs⟩
  | flag i hf hs =>
    exact ⟨_, by rw [World.writeView_writeFlag, hv]; rfl, .flag i hf hs⟩
  | send y i hf hs hc hh =>
    obtain rfl := view_eq_of hc hv
    rcases World.writeSend_eq y _ _ hv with ⟨-, -, he⟩ | ⟨hh', -, -⟩
    · exact ⟨_, he, .send i hf hs hh⟩
    · simp [View.of, hh] at hh'
  | refuse y i hf hs hc hh =>
    obtain rfl := view_eq_of hc hv
    rcases World.writeSend_eq y _ _ hv with ⟨hh', -, -⟩ | ⟨-, -, he⟩
    · simp [View.of, hh] at hh'
    · exact ⟨_, he, .refuse i hf hs hh⟩
  | close y hc ho =>
    obtain rfl := view_eq_of hc hv
    exact ⟨_, World.writeView_close y hv ho, .close ho⟩
  | limit m => exact ⟨_, by rw [World.writeView_setQueueMax, hv]; rfl, .limit m⟩
  | take bytes done more hs hc hd ho =>
    obtain rfl := view_eq_of hc hv
    refine ⟨_, ?_, .take bytes done more hs hd ho⟩
    rw [World.writeView_modifyConn _ (fun v => { v with outbound := more, driver := .writing bytes bytes.size done })
      (fun _ => rfl), hv]
    rfl
  | push d rest len done pipe hs hc hd hdup hw =>
    obtain rfl := view_eq_of hc hv
    obtain ⟨q, hq, hpq⟩ := pipe_of hdup hp
    rw [hq, Option.getD_some] at hw
    refine ⟨_, ?_, .push rest len done q.toPeer pipe hs hd hpq hw⟩
    rw [World.writeView_dispatch, World.writeView_wrote,
      World.writeView_modifyConn _ (fun v => { v with driver := .selecting }) (fun _ => rfl),
      World.writeView_modifyDuplex d _ (fun _ => pipe) (fun _ => rfl), hv]
    simp [View.of, hdup, hq]
  | pushPart d rest len done n pipe hs hc hd hdup hw hn =>
    obtain rfl := view_eq_of hc hv
    obtain ⟨q, hq, hpq⟩ := pipe_of hdup hp
    rw [hq, Option.getD_some] at hw
    refine ⟨_, ?_, .pushPart rest len done q.toPeer pipe n hs hd hpq hw hn⟩
    rw [World.writeView_modifyConn _ (fun v => { v with driver := .writing (rest.extract n rest.size) len done })
      (fun _ => rfl), World.writeView_modifyDuplex d _ (fun _ => pipe) (fun _ => rfl), hv]
    simp [View.of, hdup, hq]
  | broken d rest len done hs hc hd hdup hw =>
    obtain rfl := view_eq_of hc hv
    obtain ⟨q, hq, hpq⟩ := pipe_of hdup hp
    rw [hq, Option.getD_some] at hw
    refine ⟨_, ?_, .broken rest len done q.toPeer hs hd hpq hw⟩
    rw [World.writeView_stopDriver, World.writeView_wrote, hv]
    rfl
  | stop more hs hc hd ho =>
    obtain rfl := view_eq_of hc hv
    refine ⟨_, ?_, .stop more hs hd ho⟩
    rw [World.writeView_stopDriver, World.writeView_modifyConn _ (fun v => { v with outbound := more })
      (fun _ => rfl), hv]
    rfl
  | @read w g c d b hs hc hd ho hpause hdup hr =>
    have he : ((w.modifyDuplex d fun d => { d with toLocal := (d.toLocal.read readChunk).2 }).emit x id
        (.connData id · b)).writeView id = (w.modifyDuplex d fun d => { d with toLocal := (d.toLocal.read readChunk).2 }).writeView id :=
      World.writeView_emit x (.data b) (by simp)
    refine ⟨v, ?_, .stay _⟩
    rw [he, World.writeView_modifyDuplex d (fun d => { d with toLocal := (d.toLocal.read readChunk).2 })
      (fun p => p) (fun _ => rfl), hv]
    simp
  | @finish w g c d hs hc hd ho hpause hdup hr =>
    obtain rfl := view_eq_of hc hv
    have he : (w.emit x id (.connSignal id · .finish)).writeView id = w.writeView id :=
      World.writeView_emit x (.signal .finish) (by simp)
    refine ⟨_, ?_, .finish hs hd ho⟩
    rw [World.writeView_stopDriver, he, hv]
    rfl
  | @notice w g c hs hc =>
    refine ⟨v, ?_, .stay _⟩
    rw [World.writeView_modifyConn (fun c' => { c' with seenVersion := c.pauseVersion }) (fun v => v)
      (fun _ => rfl), hv]
    rfl
  | peerRead d k b hc hdup hr =>
    obtain rfl := view_eq_of hc hv
    obtain ⟨q, hq, hpq⟩ := pipe_of hdup hp
    rw [hq, Option.getD_some] at hr
    refine ⟨_, ?_, .peerRead q.toPeer k b hpq hr⟩
    rw [World.writeView_modifyDuplex d _ (fun p => (p.read k).2) (fun _ => rfl), hv]
    simp [View.of, hdup, hq]
  | hangUp d hc hdup =>
    obtain rfl := view_eq_of hc hv
    obtain ⟨q, hq, hpq⟩ := pipe_of hdup hp
    refine ⟨_, ?_, .hangUp q.toPeer hpq⟩
    rw [World.writeView_modifyDuplex d _ Net.Pipe.close (fun _ => rfl), hv]
    simp [View.of, hdup, hq]
  | env h => exact ⟨v, h.trans hv, .stay _⟩


/-- Moves keep the outgoing pipe. -/
theorem Move.pipe {a b : Snap} (h : Move a b) (hp : a.view.pipe.isSome) : b.view.pipe.isSome := by
  cases h <;> simp_all [View.stopped]

/-- A property of views and ghosts that every move keeps holds along every run. -/
theorem Reach.snap (P : Snap → Prop) (hmove : ∀ {a b : Snap}, a.view.pipe.isSome → P a → Move a b → P b)
    {s s' : St} (hr : Reach id x t s s') (hv : s.world.writeView id = some v) (hp : v.pipe.isSome)
    (h0 : P ⟨v, s.ghost⟩) : ∃ v', s'.world.writeView id = some v' ∧ v'.pipe.isSome ∧ P ⟨v', s'.ghost⟩ := by
  induction hr with
  | refl => exact ⟨v, hv, hp, h0⟩
  | step _ hs ih =>
    obtain ⟨u, hu, hup, hP⟩ := ih
    obtain ⟨u', hu', hm⟩ := hs.move hu hup
    exact ⟨u', hu', hm.pipe hup, hmove hup hP hm⟩

end Moves


/-! ### Runs from a fresh connection -/

/-- The view of a connection whose driver has just started: active, nothing queued, counted or
    due, a driver taking items, and an empty outgoing pipe. -/
structure View.Fresh (v : View) : Prop where
  state : v.state = .active
  outbound : v.outbound = []
  driver : v.driver = .selecting
  queued : v.queued = 0
  queueMax : 0 < v.queueMax
  drainPending : v.drainPending = false
  driverHeld : v.driverHeld = true
  pipe : ∃ p, v.pipe = some p ∧ p.buffer.size = 0

/-- Connection `id` has just started its driver, and nothing has happened on its write path. -/
def Fresh (id : Nat) (s : St) : Prop :=
  ∃ v, s.world.writeView id = some v ∧ v.Fresh ∧ s.ghost = {}

/-- One worker, and connection 1 of context 1 active on duplex 0 with a write limit of `m`, its
    driver just started. -/
def St.opened (m : Nat) : St :=
  ⟨{ config := {}, registry := { workerCount := 1 }, workers := #[{}], duplexes := #[{}],
     conns := #[{ id := 1, endpoint := ⟨"mock", 4000, false⟩, keepAlive := true, owner := ⟨1⟩,
                  state := .active, duplex := some 0, queueMax := m }] }, {}⟩

theorem fresh_opened {m : Nat} (hm : 0 < m) : Fresh 1 (St.opened m) :=
  ⟨_, rfl, ⟨rfl, rfl, rfl, rfl, hm, rfl, rfl, ⟨{}, rfl, rfl⟩⟩, rfl⟩

/-- The connection behind a view, with the fields the driver's steps ask for. -/
theorem conn_of_view {w : World} {id : Nat} {v : View} (h : w.writeView id = some v) :
    ∃ c, w.conn? id = some c ∧ c.state = v.state ∧ c.outbound = v.outbound ∧ c.driver = v.driver ∧
      c.driverHeld = v.driverHeld := by
  obtain ⟨c, hc, rfl⟩ := World.writeView_eq_some.1 h
  exact ⟨c, hc, rfl, rfl, rfl, rfl⟩


/-! ### The model's own calls are runs -/

section Runs

variable {id : Nat} {x : Exec} {t : Nat}

theorem eraseIdx_concat_length {α : Type} (l : List α) (a : α) : (l ++ [a]).eraseIdx l.length = l := by
  rw [List.eraseIdx_append_of_length_le (le_refl _)]
  simp

/-- A write to an open connection made in one piece is a run of its four sections, which leaves
    no write in flight behind. -/
theorem write_reach (y : Exec) (bytes : ByteArray) (tag : Option String) {w : World} {c : Connection}
    (hc : w.conn? id = some c) (ho : c.state.isOpen = true) (g : Ghost) :
    ∃ g', Reach id x t ⟨w, g⟩ ⟨(w.write y id bytes tag).2, g'⟩ ∧ g'.flights = g.flights := by
  rw [World.write_eq_sections y bytes tag hc ho]
  -- the write is the last in flight; its sections run one after the other
  let f : Flight := ⟨bytes, tag.map (c.owner, ·), .checked⟩
  let n := g.flights.length
  let due := (w.writeCount id bytes.size).1
  let g₁ : Ghost := { g with flights := g.flights ++ [f] }
  let g₂ : Ghost := { g₁ with flights := g₁.flights.set n { f with stage := .counted due }, reached := g₁.reached || due }
  have s₁ := @Step.check id x t w g c bytes tag hc ho
  have s₂ := @Step.count id x t w g₁ f n (by simp [g₁, n, f]) rfl
  have s₃ := @Step.flag id x t (w.writeCount id bytes.size).2 g₂ { f with stage := .counted due } due n
    (by simp [g₂, g₁, n]) rfl
  -- counting and flagging leave whether a driver takes items as it was
  obtain ⟨c₂, hc₂, hh₂⟩ : ∃ c₂, ((w.writeCount id bytes.size).2.writeFlag id
      (w.writeCount id bytes.size).1).conn? id = some c₂ ∧ c₂.driverHeld = c.driverHeld :=
    ⟨_, World.conn?_modifyConn_self _ (World.conn?_modifyConn_self _ hc), rfl⟩
  cases hh : c.driverHeld
  · have s₄ := @Step.refuse id x t _
      { g₂ with flights := g₂.flights.set n { f with stage := .flagged }, flagged := g₂.flagged || due }
      { f with stage := .flagged } c₂ y n (by simp [g₂, g₁, n]) rfl hc₂ (hh₂.trans hh)
    exact ⟨_, (((Reach.single s₁).step s₂).step s₃).step s₄, by simp [g₂, g₁, n, eraseIdx_concat_length]⟩
  · have s₄ := @Step.send id x t _
      { g₂ with flights := g₂.flights.set n { f with stage := .flagged }, flagged := g₂.flagged || due }
      { f with stage := .flagged } c₂ y n (by simp [g₂, g₁, n]) rfl hc₂ (hh₂.trans hh)
    exact ⟨_, (((Reach.single s₁).step s₂).step s₃).step s₄, by simp [g₂, g₁, n, eraseIdx_concat_length]⟩

/-- Each poll of the driver is a run of the driver's steps: the loop's rounds are its `take`,
    `push`, `pushPart`, `broken`, `stop`, `read`, `finish` and `notice` steps. -/
theorem driveLoop_reach (fuel : Nat) : ∀ (w : World) (g : Ghost), g.stop = none →
    ∃ g', Reach id x t ⟨w, g⟩ ⟨w.driveLoop x t id fuel, g'⟩ := by
  induction fuel with
  | zero => exact fun w g _ => ⟨g, .refl _⟩
  | succ fuel ih =>
    intro w g hs
    rw [World.driveLoop]
    cases hc : w.conn? id with
    | none => exact ⟨g, .refl _⟩
    | some c =>
      cases hdup : c.duplex with
      | none => simp only [hdup]; exact ⟨g, .refl _⟩
      | some d =>
        simp only [hdup]
        cases hd : c.driver with
        | writing rest len done =>
          dsimp only
          cases hw : (w.duplexes[d]?.getD {}).toPeer.write rest with
          | none => exact ⟨_, .single (.broken d rest len done hs hc hd hdup hw)⟩
          | some r =>
            obtain ⟨n, pipe⟩ := r
            dsimp only
            by_cases hn : n = rest.size
            · subst hn
              rw [if_pos rfl]
              -- the completion, if any, is dispatched; then the loop goes on
              cases done with
              | none =>
                dsimp only
                obtain ⟨g', hr⟩ := ih _ { g.flush ((View.of c w.duplexes).drainsAt len) with
                  completed := g.completed ++ [] }
                  (by simp [Ghost.flush, hs])
                exact ⟨g', (Reach.single (.push d rest len none pipe hs hc hd hdup hw)).trans hr⟩
              | some p =>
                obtain ⟨writer, tag⟩ := p
                dsimp only
                obtain ⟨g', hr⟩ := ih _ { g.flush ((View.of c w.duplexes).drainsAt len) with
                  completed := g.completed ++ [(writer, tag)] } (by simp [Ghost.flush, hs])
                exact ⟨g', (Reach.single (.push d rest len (some (writer, tag)) pipe hs hc hd hdup hw)).trans hr⟩
            · rw [if_neg hn]
              exact ⟨_, .single (.pushPart d rest len done n pipe hs hc hd hdup hw hn)⟩
        | selecting =>
          dsimp only
          cases ho : c.outbound with
          | cons item more =>
            cases item with
            | data bytes done =>
              dsimp only
              obtain ⟨g', hr⟩ := ih _ g hs
              exact ⟨g', (Reach.single (.take bytes done more hs hc hd ho)).trans hr⟩
            | close => exact ⟨_, .single (.stop more hs hc hd ho)⟩
          | nil =>
            dsimp only
            -- nothing to read: the loop notices a pause change and goes on, or waits
            have quiet : ∃ g', Reach id x t ⟨w, g⟩ ⟨if (c.pauseVersion != c.seenVersion) = true then
                (w.modifyConn id ({ · with seenVersion := c.pauseVersion })).driveLoop x t id fuel else w, g'⟩ := by
              split
              · obtain ⟨g', hr⟩ := ih _ g hs
                exact ⟨g', (Reach.single (.notice hs hc)).trans hr⟩
              · exact ⟨g, .refl _⟩
            cases hp : c.paused with
            | true => exact quiet
            | false =>
              cases hr : ((w.duplexes[d]?.getD {}).toLocal.read readChunk).1 with
              | bytes b =>
                obtain ⟨g', hr'⟩ := ih _ g hs
                exact ⟨g', (Reach.single (.read d b hs hc hd ho hp hdup hr)).trans hr'⟩
              | endOfStream => exact ⟨_, .single (.finish d hs hc hd ho hp hdup hr)⟩
              | empty => exact quiet

end Runs


/-! ### Moves the model makes

The converse of `Step.move` for the moves a schedule is made of: from every world with a given
view, the model's own functions make the move. A schedule is then written over views alone. -/

section Lifts

variable {id : Nat} {x : Exec} {t : Nat} {v : View} {g : Ghost}

/-- From every world with the view and ghost of `a`, the model reaches one with those of `b`. -/
def Leads (id : Nat) (x : Exec) (t : Nat) (a b : Snap) : Prop :=
  ∀ w : World, w.writeView id = some a.view → ∃ w', Reach id x t ⟨w, a.ghost⟩ ⟨w', b.ghost⟩ ∧ w'.writeView id = some b.view

theorem Leads.trans {a b c : Snap} (h₁ : Leads id x t a b) (h₂ : Leads id x t b c) : Leads id x t a c := by
  intro w hw
  obtain ⟨w₁, hr₁, hw₁⟩ := h₁ w hw
  obtain ⟨w₂, hr₂, hw₂⟩ := h₂ w₁ hw₁
  exact ⟨w₂, hr₁.trans hr₂, hw₂⟩

theorem Leads.of_step {a b : Snap}
    (h : ∀ w : World, w.writeView id = some a.view → ∃ w', Step id x t ⟨w, a.ghost⟩ ⟨w', b.ghost⟩ ∧ w'.writeView id = some b.view) :
    Leads id x t a b := fun w hw =>
  let ⟨w', hs, hw'⟩ := h w hw
  ⟨w', .single hs, hw'⟩

theorem leads_check (b : ByteArray) (ho : v.state.isOpen = true) :
    Leads id x t ⟨v, g⟩ ⟨v, { g with flights := g.flights ++ [⟨b, none, .checked⟩] }⟩ :=
  .of_step fun w hw => by
    obtain ⟨c, hc, hst, -⟩ := conn_of_view hw
    exact ⟨w, Step.check b none hc (by rw [hst]; exact ho), hw⟩

theorem leads_count {f : Flight} (i : Nat) (hf : g.flights[i]? = some f) (hs : f.stage = .checked) :
    Leads id x t ⟨v, g⟩ ⟨{ v with queued := v.queued + f.bytes.size }, { g with
      flights := g.flights.set i { f with stage := .counted (decide (v.queued + f.bytes.size ≥ v.queueMax)) }
      reached := g.reached || decide (v.queued + f.bytes.size ≥ v.queueMax) }⟩ :=
  .of_step fun w hw => by
    have s := @Step.count id x t w g f i hf hs
    rw [World.writeCount_due _ hw] at s
    exact ⟨_, s, by rw [World.writeView_writeCount, hw]; rfl⟩

theorem leads_flag {f : Flight} {due : Bool} (i : Nat) (hf : g.flights[i]? = some f) (hs : f.stage = .counted due) :
    Leads id x t ⟨v, g⟩ ⟨{ v with drainPending := v.drainPending || due },
      { g with flights := g.flights.set i { f with stage := .flagged }, flagged := g.flagged || due }⟩ :=
  .of_step fun w hw => ⟨_, @Step.flag id x t w g f due i hf hs, by rw [World.writeView_writeFlag, hw]; rfl⟩

theorem leads_send (y : Exec) {f : Flight} (i : Nat) (hf : g.flights[i]? = some f) (hs : f.stage = .flagged)
    (hh : v.driverHeld = true) :
    Leads id x t ⟨v, g⟩ ⟨{ v with outbound := v.outbound ++ [.data f.bytes f.done] }, { g with
      flights := g.flights.eraseIdx i
      ahead := if g.marked then g.ahead else g.ahead ++ [(f.bytes, f.done)]
      behind := if g.marked then g.behind ++ [f.bytes] else g.behind }⟩ :=
  .of_step fun w hw => by
    obtain ⟨c, hc, -, -, -, hheld⟩ := conn_of_view hw
    rcases World.writeSend_eq y f.bytes f.done hw with ⟨_, _, hw'⟩ | ⟨hh', _, _⟩
    · exact ⟨_, Step.send y i hf hs hc (hheld.trans hh), hw'⟩
    · simp [hh] at hh'

theorem leads_close (y : Exec) (ho : v.state.isOpen = true) :
    Leads id x t ⟨v, g⟩ ⟨{ v with
        state := .closing, outbound := if v.driverHeld then v.outbound ++ [.close] else v.outbound },
      { g with marked := g.marked || v.driverHeld, raced := g.raced || !g.flights.isEmpty }⟩ :=
  .of_step fun w hw => by
    obtain ⟨c, hc, hst, -, -, hheld⟩ := conn_of_view hw
    have s := @Step.close id x t w g c y hc (by rw [hst]; exact ho)
    rw [hheld] at s
    exact ⟨_, s, World.writeView_close y hw ho⟩

theorem leads_take {b : ByteArray} {d : Option (ContextId × String)} {more : List Outbound} (hs : g.stop = none)
    (hd : v.driver = .selecting) (ho : v.outbound = .data b d :: more) :
    Leads id x t ⟨v, g⟩ ⟨{ v with outbound := more, driver := .writing b b.size d }, g⟩ :=
  .of_step fun w hw => by
    obtain ⟨c, hc, -, hoc, hdc, -⟩ := conn_of_view hw
    refine ⟨_, Step.take b d more hs hc (hdc.trans hd) (hoc.trans ho), ?_⟩
    rw [World.writeView_modifyConn _ (fun v => { v with outbound := more, driver := .writing b b.size d })
      (fun _ => rfl), hw]
    rfl

theorem leads_push {r : ByteArray} {len : Nat} {done : Option (ContextId × String)} {p pipe : Net.Pipe}
    (hs : g.stop = none) (hd : v.driver = .writing r len done) (hp : v.pipe = some p)
    (hw : p.write r = some (r.size, pipe)) :
    Leads id x t ⟨v, g⟩ ⟨{ v with
        driver := .selecting, queued := v.queued - len, pipe := some pipe
        drainPending := v.drainPending && !decide (v.queued - len ≤ v.queueMax / 2) },
      { g.flush (v.drainsAt len) with completed := g.completed ++ done.toList }⟩ :=
  .of_step fun w hv => by
    obtain ⟨c, hc, rfl⟩ := World.writeView_eq_some.1 hv
    -- the driver's pipe is the view's
    obtain ⟨dx, hdup, hpeer⟩ : ∃ dx, c.duplex = some dx ∧ (w.duplexes[dx]?).map (·.toPeer) = some p := by
      simpa [View.of, Option.bind_eq_some_iff] using hp
    obtain ⟨q, hq, rfl⟩ := Option.map_eq_some_iff.1 hpeer
    have hw' : (w.duplexes[dx]?.getD {}).toPeer.write r = some (r.size, pipe) := by rw [hq]; exact hw
    refine ⟨_, Step.push dx r len done pipe hs hc hd hdup hw', ?_⟩
    rw [World.writeView_dispatch, World.writeView_wrote,
      World.writeView_modifyConn _ (fun v => { v with driver := .selecting }) (fun _ => rfl),
      World.writeView_modifyDuplex dx _ (fun _ => pipe) (fun _ => rfl), hv]
    simp [View.of, hdup, hq]

theorem leads_stop {more : List Outbound} (hs : g.stop = none) (hd : v.driver = .selecting)
    (ho : v.outbound = .close :: more) : Leads id x t ⟨v, g⟩ ⟨v.stopped, g.halt .marker⟩ :=
  .of_step fun w hw => by
    obtain ⟨c, hc, -, hoc, hdc, -⟩ := conn_of_view hw
    refine ⟨_, Step.stop more hs hc (hdc.trans hd) (hoc.trans ho), ?_⟩
    rw [World.writeView_stopDriver, World.writeView_modifyConn _ (fun v => { v with outbound := more })
      (fun _ => rfl), hw]
    rfl

end Lifts

end WritePath

end Affinity
