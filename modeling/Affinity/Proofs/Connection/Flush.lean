import Affinity.Proofs.Connection.WriteSystem
/-!
Writes are flushed in order before a close completes, unless the close races a write.

A write that returns Ok has put its item on the connection's queue, either ahead of the close
marker or behind it (`Ghost.ahead`, `Ghost.behind`). Along every run of the write path from a
fresh connection (`Reach.flushing`):

* the completions dispatched are those of the first writes ahead of the marker, in order, and
  each only once its bytes are all in the transport;
* once the driver has taken the marker, the transport (what the peer read and what the pipe
  still holds) is exactly the concatenation of the writes ahead of it, in the order they were
  accepted, and all their completions have gone out;
* a write can only land behind the marker if a close ran while it was in flight; its item is
  never flushed.

Main statements: `flushed_before_close`, and `close_drops_ok_write`, a schedule in which a write
checks the connection, a close queues its marker, and the write then returns Ok behind it.
-/

namespace Affinity.WritePath

open Net

/-! ### Bytes and queues -/

@[simp] theorem octets_append (a b : ByteArray) : octets (a ++ b) = octets a ++ octets b := by
  simp [octets, ByteArray.data_append]

theorem octets_extract_split (b : ByteArray) (n : Nat) :
    octets (b.extract 0 n) ++ octets (b.extract n b.size) = octets b := by
  have h : (b.data.toList.drop n).length ≤ b.size - n := by
    simp only [List.length_drop, Array.length_toList, ByteArray.size_data, le_refl]
  simp only [octets, ByteArray.data_extract, Array.toList_extract, List.extract, List.drop_zero, Nat.sub_zero]
  rw [List.take_of_length_le h, List.take_append_drop]

theorem octets_extract_size (b : ByteArray) : octets (b.extract 0 b.size) = octets b := by
  have h := octets_extract_split b b.size
  rwa [show octets (b.extract b.size b.size) = [] by simp [octets], List.append_nil] at h

theorem octets_eq_nil {b : ByteArray} (h : b.size = 0) : octets b = [] := by
  have h' : b.data.size = 0 := by rw [ByteArray.size_data]; exact h
  simp [octets, Array.eq_empty_of_size_eq_zero h']

/-- A write adds to the buffer what the pipe took. -/
theorem Pipe.buffer_of_write {p q : Pipe} {r : ByteArray} {n : Nat} (h : p.write r = some (n, q)) :
    q.buffer = p.buffer ++ r.extract 0 n := by
  unfold Pipe.write at h
  split at h
  · cases h
  · cases h; rfl

/-- A read takes bytes off the front of the buffer. -/
theorem Pipe.octets_of_read {p : Pipe} {k : Nat} {b : ByteArray} (h : (p.read k).1 = .bytes b) :
    octets p.buffer = octets b ++ octets (p.read k).2.buffer := by
  unfold Pipe.read at h ⊢
  split at h
  · split at h <;> cases h
  · cases h
    rename_i hne
    simp only [hne, if_false]
    rw [octets_extract_split]

/-- An Ok write as the ghost keeps it: its bytes, and where its completion goes. -/
abbrev Sent := ByteArray × Option (ContextId × String)

/-- The items writes put on the queue. -/
def queueOf (l : List Sent) : List Outbound := l.map fun a => .data a.1 a.2

/-- The bytes of writes, in order. -/
def payload (l : List Sent) : List UInt8 := (l.map fun a => octets a.1).flatten

/-- The completions of writes, in order. -/
def dones (l : List Sent) : List (ContextId × String) := l.filterMap (·.2)

@[simp] theorem queueOf_nil : queueOf [] = [] := rfl
@[simp] theorem queueOf_cons (a : Sent) (l : List Sent) : queueOf (a :: l) = .data a.1 a.2 :: queueOf l := rfl
@[simp] theorem queueOf_append (l l' : List Sent) : queueOf (l ++ l') = queueOf l ++ queueOf l' := by
  simp [queueOf]
@[simp] theorem payload_nil : payload [] = [] := rfl
@[simp] theorem payload_cons (a : Sent) (l : List Sent) : payload (a :: l) = octets a.1 ++ payload l := rfl
@[simp] theorem payload_append (l l' : List Sent) : payload (l ++ l') = payload l ++ payload l' := by
  simp [payload]
@[simp] theorem dones_nil : dones [] = [] := rfl
@[simp] theorem dones_append (l l' : List Sent) : dones (l ++ l') = dones l ++ dones l' := by
  simp [dones]
@[simp] theorem dones_single (b : ByteArray) (d : Option (ContextId × String)) : dones [(b, d)] = d.toList := by
  cases d <;> rfl

/-- A queue of writes, possibly followed by a marker and more writes, starts with the marker only
    if no write is ahead of it. -/
theorem queueOf_append_marker {A B : List Sent} {m : Bool} {more : List Outbound}
    (h : queueOf A ++ (if m then .close :: queueOf B else []) = .close :: more) :
    A = [] ∧ m = true ∧ more = queueOf B := by
  cases A with
  | cons a A => simp at h
  | nil => cases m <;> simp_all

/-- A queue of writes, possibly followed by a marker, that starts with an item starts with its first
    write ahead of the marker. -/
theorem queueOf_append_data {A B : List Sent} {m : Bool} {b : ByteArray} {d : Option (ContextId × String)}
    {more : List Outbound} (h : queueOf A ++ (if m then .close :: queueOf B else []) = .data b d :: more) :
    ∃ A', A = (b, d) :: A' ∧ more = queueOf A' ++ (if m then .close :: queueOf B else []) := by
  cases A with
  | cons a A =>
    simp only [queueOf_cons, List.cons_append, List.cons.injEq, Outbound.data.injEq] at h
    exact ⟨A, by rw [← h.1.1, ← h.1.2], h.2.symm⟩
  | nil => cases m <;> simp at h

/-! ### The marker and the races -/

/-- How the close marker, the driver's stop and the races stand on the write path. -/
structure Marks (v : View) (g : Ghost) : Prop where
  /-- The connection is closed exactly once the driver has stopped. -/
  closed : v.state = .closed ↔ g.stop.isSome
  /-- A driver takes items exactly until it stops. -/
  held : v.driverHeld = g.stop.isNone
  /-- Once a marker is queued, no writer finds the connection open. -/
  marked : g.marked = true → v.state.isOpen = false
  unmarked : g.marked = false → g.behind = []
  /-- A write in flight when the marker is queued came from a race. -/
  racedFlights : g.marked = true → g.flights ≠ [] → g.raced = true
  racedBehind : g.behind ≠ [] → g.raced = true

theorem marks_fresh {v : View} (hv : v.Fresh) : Marks v {} where
  closed := by simp [hv.state]
  held := hv.driverHeld
  marked := by simp
  unmarked := fun _ => rfl
  racedFlights := by simp
  racedBehind := by simp

/-- What stopping the driver leaves of the marks. -/
theorem Marks.stopped {v : View} {g : Ghost} (h : Marks v g) (how : Stop) (drain : Bool) :
    Marks v.stopped ((g.flush drain).halt how) where
  closed := by simp [View.stopped, Ghost.halt]
  held := by simp [View.stopped, Ghost.halt]
  marked := fun _ => rfl
  unmarked := h.unmarked
  racedFlights := h.racedFlights
  racedBehind := h.racedBehind

/-- A writer finds the connection open only while its driver runs. -/
theorem Marks.running {v : View} {g : Ghost} (hk : Marks v g) (ho : v.state.isOpen = true) : g.stop = none := by
  rw [← Option.not_isSome_iff_eq_none, ← hk.closed]; rintro h; rw [h] at ho; cases ho

/-- A writer finds the connection open only while no marker is queued. -/
theorem Marks.unmarked_of_open {v : View} {g : Ghost} (hk : Marks v g) (ho : v.state.isOpen = true) :
    g.marked = false :=
  Bool.eq_false_iff.2 fun h => by simp [hk.marked h] at ho

/-- The connection is not closed while its driver runs. -/
theorem Marks.state_ne {v : View} {g : Ghost} (hk : Marks v g) (hs : g.stop = none) : v.state ≠ .closed := by
  simpa [hs] using hk.closed.not

theorem ne_nil_of_getElem? {α : Type} {l : List α} {i : Nat} {a : α} (h : l[i]? = some a) : l ≠ [] := by
  rintro rfl; simp at h

theorem Marks.move {v v' : View} {g g' : Ghost} (h : Marks v g) (hm : Move ⟨v, g⟩ ⟨v', g'⟩) : Marks v' g' := by
  have hopen := h.unmarked_of_open
  have hrun := h.running
  obtain ⟨hclosed, hheld, hmarked, hunmarked, hrf, hrb⟩ := h
  cases hm with
  | stay | limit | take | push | pushPart | peerRead | hangUp => exact ⟨hclosed, hheld, hmarked, hunmarked, hrf, hrb⟩
  | check f ho hs =>
    -- a writer only checks a connection no marker was queued on
    exact ⟨hclosed, hheld, hmarked, hunmarked, by simp [hopen ho], hrb⟩
  | count i hf hs | flag i hf hs => exact ⟨hclosed, hheld, hmarked, hunmarked, by simpa using hrf, hrb⟩
  | send i hf hs hh =>
    refine ⟨hclosed, hheld, hmarked, fun hm' => ?_, fun hm' _ => hrf hm' (ne_nil_of_getElem? hf), fun hb => ?_⟩
    · have hm'' : g.marked = false := hm'
      simpa [hm''] using hunmarked hm'
    · cases hm' : g.marked
      · exact hrb (by simpa [hm'] using hb)
      · exact hrf hm' (ne_nil_of_getElem? hf)
  | refuse i hf hs hh => exact ⟨hclosed, hheld, hmarked, hunmarked, fun hm' _ => hrf hm' (ne_nil_of_getElem? hf), hrb⟩
  | close ho =>
    -- the connection was open: neither stopped nor marked
    refine ⟨by simp [hrun ho], hheld, fun _ => rfl, fun _ => ?_, fun _ hf => by simp [hf], fun hb => by simp [hrb hb]⟩
    simpa [hopen ho] using hunmarked (hopen ho)
  | broken rest len done p hs hd hp hw =>
    exact Marks.stopped (v := { v with
      queued := v.queued - len, drainPending := v.drainPending && !decide (v.queued - len ≤ v.queueMax / 2) })
      ⟨hclosed, hheld, hmarked, hunmarked, hrf, hrb⟩ .fault _
  | stop more hs hd ho => simpa [Ghost.flush] using Marks.stopped ⟨hclosed, hheld, hmarked, hunmarked, hrf, hrb⟩ .marker false
  | finish hs hd ho => simpa [Ghost.flush] using Marks.stopped ⟨hclosed, hheld, hmarked, hunmarked, hrf, hrb⟩ .fault false

/-! ### Where the Ok writes stand -/

/-- The driver's hand: idle, or writing the write `(b, done)`, of which `pre` is already in the pipe. -/
inductive Hand : DriverState → List Sent → List UInt8 → Prop
  | idle : Hand .selecting [] []
  | busy {b rest : ByteArray} {pre : List UInt8} {done : Option (ContextId × String)}
      (h : octets b = pre ++ octets rest) : Hand (.writing rest b.size done) [(b, done)] pre

/-- Where the Ok writes ahead of the marker stand: `F` flushed whole, then `rest`, of whose first
    write the start `pre` is in the outgoing pipe `p`. The transport (what the peer read and what the
    pipe holds) is the bytes of `F` and then `pre`, and the completions of `F`, and only theirs, went
    out. While the driver runs, `rest` is its hand and then the queue up to the marker, and the
    writes behind the marker follow the marker; once it took the marker, all are flushed. -/
structure Flush (v : View) (g : Ghost) (p : Pipe) (F rest : List Sent) (pre : List UInt8) : Prop where
  pipe : v.pipe = some p
  ahead : g.ahead = F ++ rest
  transport : g.received ++ octets p.buffer = payload F ++ pre
  completed : g.completed = dones F
  running : g.stop = none → ∃ cur A B, rest = cur ++ A ∧ Hand v.driver cur pre ∧
    v.outbound = queueOf A ++ (if g.marked then .close :: queueOf B else []) ∧ B.map (·.1) = g.behind
  marker : g.stop = some .marker → rest = [] ∧ pre = []

theorem flush_fresh {v : View} (hv : v.Fresh) : ∃ p, Flush v {} p [] [] [] := by
  obtain ⟨p, hp, hbuf⟩ := hv.pipe
  refine ⟨p, hp, rfl, by simp [octets_eq_nil hbuf], rfl, fun _ => ⟨[], [], [], rfl, ?_, by simp [hv.outbound], rfl⟩,
    by simp⟩
  rw [hv.driver]; exact .idle

/-- Stopping the driver keeps what was flushed and closes the pipe over the same bytes. -/
theorem Flush.stopped {v : View} {g : Ghost} {p : Pipe} {F rest : List Sent} {pre : List UInt8}
    (h : Flush v g p F rest pre) (drain : Bool) :
    Flush v.stopped ((g.flush drain).halt .fault) p.close F rest pre :=
  ⟨by simp [View.stopped, h.pipe], h.ahead, h.transport, h.completed, by simp [Ghost.halt], by simp [Ghost.halt]⟩

/-- A write the driver has taken off the queue is the next one ahead of the marker. -/
theorem Flush.take {v : View} {g : Ghost} {p : Pipe} {F rest : List Sent} {pre : List UInt8}
    (h : Flush v g p F rest pre) {b : ByteArray} {d : Option (ContextId × String)} {more : List Outbound}
    (hs : g.stop = none) (hd : v.driver = .selecting) (ho : v.outbound = .data b d :: more) :
    Flush { v with outbound := more, driver := .writing b b.size d } g p F rest [] := by
  obtain ⟨cur, A, B, hrest, hhand, hout, hB⟩ := h.running hs
  rw [hd] at hhand
  cases hhand
  obtain ⟨A', rfl, hmore⟩ := queueOf_append_data (hout.symm.trans ho)
  exact ⟨h.pipe, h.ahead, h.transport, h.completed,
    fun _ => ⟨[(b, d)], A', B, by simp [hrest], .busy (by simp), hmore, hB⟩, fun h' => by simp [hs] at h'⟩

/-- A write the pipe took whole is flushed, and its completion goes out. -/
theorem Flush.push {v : View} {g : Ghost} {p : Pipe} {F rest : List Sent} {pre : List UInt8}
    (h : Flush v g p F rest pre) {r : ByteArray} {len : Nat} {done : Option (ContextId × String)} {pipe : Pipe}
    (hs : g.stop = none) (hd : v.driver = .writing r len done) (hw : p.write r = some (r.size, pipe)) (drain : Bool) :
    ∃ F' rest', Flush { v with
        driver := .selecting, queued := v.queued - len, pipe := some pipe
        drainPending := v.drainPending && !decide (v.queued - len ≤ v.queueMax / 2) }
      { g.flush drain with completed := g.completed ++ done.toList } pipe F' rest' [] := by
  obtain ⟨cur, A, B, hrest, hhand, hout, hB⟩ := h.running hs
  rw [hd] at hhand
  cases hhand with
  | @busy b _ _ _ hb =>
    refine ⟨F ++ [(b, done)], A, rfl, by simp [Ghost.flush, h.ahead, hrest], ?_, by simp [h.completed],
      fun _ => ⟨[], A, B, rfl, .idle, hout, hB⟩, fun h' => by simp [Ghost.flush, hs] at h'⟩
    -- the pipe now also holds the rest of the write
    simp only [Ghost.flush, Pipe.buffer_of_write hw, octets_append, octets_extract_size, payload_append]
    rw [← List.append_assoc, h.transport]
    simp [hb]

/-- A write the pipe took part of stays in the driver's hand, with more of it in the pipe. -/
theorem Flush.pushPart {v : View} {g : Ghost} {p : Pipe} {F rest : List Sent} {pre : List UInt8}
    (h : Flush v g p F rest pre) {r : ByteArray} {len n : Nat} {done : Option (ContextId × String)} {pipe : Pipe}
    (hs : g.stop = none) (hd : v.driver = .writing r len done) (hw : p.write r = some (n, pipe)) :
    Flush { v with driver := .writing (r.extract n r.size) len done, pipe := some pipe } g pipe F rest
      (pre ++ octets (r.extract 0 n)) := by
  obtain ⟨cur, A, B, hrest, hhand, hout, hB⟩ := h.running hs
  rw [hd] at hhand
  cases hhand with
  | busy hb =>
    refine ⟨rfl, h.ahead, ?_, h.completed, fun _ => ⟨_, A, B, hrest, .busy ?_, hout, hB⟩, fun h' => by simp [hs] at h'⟩
    · rw [Pipe.buffer_of_write hw, octets_append, ← List.append_assoc, h.transport, List.append_assoc]
    · rw [hb, List.append_assoc, octets_extract_split]

/-- Taking the marker: nothing ahead of it is left to flush. -/
theorem Flush.stop {v : View} {g : Ghost} {p : Pipe} {F rest : List Sent} {pre : List UInt8}
    (h : Flush v g p F rest pre) {more : List Outbound} (hs : g.stop = none) (hd : v.driver = .selecting)
    (ho : v.outbound = .close :: more) : Flush v.stopped (g.halt .marker) p.close F [] [] := by
  obtain ⟨cur, A, B, hrest, hhand, hout, hB⟩ := h.running hs
  rw [hd] at hhand
  cases hhand
  obtain ⟨rfl, -, -⟩ := queueOf_append_marker (hout.symm.trans ho)
  exact ⟨by simp [View.stopped, h.pipe], by simp [Ghost.halt, h.ahead, hrest], h.transport,
    h.completed, by simp [Ghost.halt], fun _ => ⟨rfl, rfl⟩⟩

/-- A close queues its marker behind every write ahead of it; the writes after it go behind it. -/
theorem Flush.close {v : View} {g : Ghost} {p : Pipe} {F rest : List Sent} {pre : List UInt8}
    (hk : Marks v g) (h : Flush v g p F rest pre) (ho : v.state.isOpen = true) :
    Flush { v with state := .closing, outbound := if v.driverHeld then v.outbound ++ [.close] else v.outbound }
      { g with marked := g.marked || v.driverHeld, raced := g.raced || !g.flights.isEmpty } p F rest pre := by
  -- an open connection: its driver runs and no marker is queued yet
  have hs := hk.running ho
  have hm := hk.unmarked_of_open ho
  have hh : v.driverHeld = true := by rw [hk.held, hs]; rfl
  obtain ⟨cur, A, B, hrest, hhand, hout, hB⟩ := h.running hs
  refine ⟨h.pipe, h.ahead, h.transport, h.completed, fun _ => ⟨cur, A, [], hrest, hhand, ?_, ?_⟩, fun h' => by simp [hs] at h'⟩
  · simp [hh, hout, hm]
  · simpa [hm] using (hk.unmarked hm).symm

/-- A send puts the write ahead of the marker, or behind it once the marker is queued. -/
theorem Flush.send {v : View} {g : Ghost} {p : Pipe} {F rest : List Sent} {pre : List UInt8}
    (hk : Marks v g) (h : Flush v g p F rest pre) (f : Flight) (i : Nat) (hh : v.driverHeld = true) :
    ∃ rest', Flush { v with outbound := v.outbound ++ [.data f.bytes f.done] } { g with
        flights := g.flights.eraseIdx i
        ahead := if g.marked then g.ahead else g.ahead ++ [(f.bytes, f.done)]
        behind := if g.marked then g.behind ++ [f.bytes] else g.behind } p F rest' pre := by
  have hs : g.stop = none := by simpa [hk.held] using hh
  obtain ⟨cur, A, B, hrest, hhand, hout, hB⟩ := h.running hs
  cases hm : g.marked
  · refine ⟨rest ++ [(f.bytes, f.done)], h.pipe, by simp [h.ahead], h.transport, h.completed,
      fun _ => ⟨cur, A ++ [(f.bytes, f.done)], B, by simp [hrest], hhand, by simp [hout, hm], by simpa using hB⟩,
      fun h' => by simp [hs] at h'⟩
  · refine ⟨rest, h.pipe, by simp [h.ahead], h.transport, h.completed,
      fun _ => ⟨cur, A, B ++ [(f.bytes, f.done)], hrest, hhand, by simp [hout, hm], by simp [hB]⟩,
      fun h' => by simp [hs] at h'⟩

/-- The pipe a move reads is the invariant's. -/
theorem Flush.pipe_eq {v : View} {g : Ghost} {p q : Pipe} {F rest : List Sent} {pre : List UInt8}
    (h : Flush v g p F rest pre) (hq : v.pipe = some q) : q = p :=
  Option.some.inj (hq.symm.trans h.pipe)

theorem Flush.move {v v' : View} {g g' : Ghost} {p : Pipe} {F rest : List Sent} {pre : List UInt8}
    (hk : Marks v g) (h : Flush v g p F rest pre) (hm : Move ⟨v, g⟩ ⟨v', g'⟩) :
    ∃ p' F' rest' pre', Flush v' g' p' F' rest' pre' := by
  cases hm with
  | stay | check | count | flag | refuse | limit => exact ⟨p, F, rest, pre, h.1, h.2, h.3, h.4, h.5, h.6⟩
  | send i hf hs hh =>
    obtain ⟨rest', hf'⟩ := h.send hk _ i hh
    exact ⟨p, F, rest', pre, hf'⟩
  | close ho => exact ⟨p, F, rest, pre, h.close hk ho⟩
  | take bytes done more hs hd ho => exact ⟨p, F, rest, [], h.take hs hd ho⟩
  | push rest len done q pipe hs hd hp hw =>
    obtain rfl := h.pipe_eq hp
    obtain ⟨F', rest', hf⟩ := h.push hs hd hw (v.drainsAt len)
    exact ⟨pipe, F', rest', [], hf⟩
  | pushPart rest len done q pipe n hs hd hp hw hn =>
    obtain rfl := h.pipe_eq hp
    exact ⟨pipe, F, _, _, h.pushPart hs hd hw⟩
  | broken rest len done q hs hd hp hw =>
    exact ⟨p.close, F, _, pre, Flush.stopped (v := { v with
      queued := v.queued - len, drainPending := v.drainPending && !decide (v.queued - len ≤ v.queueMax / 2) })
      ⟨h.1, h.2, h.3, h.4, h.5, h.6⟩ _⟩
  | stop more hs hd ho => exact ⟨p.close, F, [], [], h.stop hs hd ho⟩
  | finish hs hd ho => exact ⟨p.close, F, rest, pre, by simpa [Ghost.flush] using h.stopped false⟩
  | peerRead q k b hp hr =>
    obtain rfl := h.pipe_eq hp
    refine ⟨(q.read k).2, F, rest, pre, rfl, h.ahead, ?_, h.completed, h.running, h.marker⟩
    rw [List.append_assoc, ← Pipe.octets_of_read hr, h.transport]
  | hangUp q hp =>
    obtain rfl := h.pipe_eq hp
    exact ⟨q.close, F, rest, pre, rfl, h.ahead, h.transport, h.completed, h.running, h.marker⟩

/-! ### Runs -/

variable {id : Nat} {x : Exec} {t : Nat}

/-- Along every run from a fresh connection, the marks hold and the Ok writes stand as `Flush` says. -/
theorem Reach.flushing {s s' : St} (hf : Fresh id s) (hr : Reach id x t s s') :
    ∃ v, s'.world.writeView id = some v ∧ Marks v s'.ghost ∧ ∃ p F rest pre, Flush v s'.ghost p F rest pre := by
  obtain ⟨v, hv, hfr, hg⟩ := hf
  obtain ⟨p, hp⟩ := flush_fresh hfr
  obtain ⟨v', hv', -, hm, hfl⟩ := Reach.snap
    (fun a => Marks a.view a.ghost ∧ ∃ p F rest pre, Flush a.view a.ghost p F rest pre)
    (fun _ ⟨hm, _, _, _, _, hfl⟩ hmove => ⟨hm.move hmove, hfl.move hm hmove⟩) hr hv (by simp [hp.pipe])
    ⟨by rw [hg]; exact marks_fresh hfr, p, [], [], [], by rw [hg]; exact hp⟩
  exact ⟨v', hv', hm, hfl⟩

/-- From a fresh connection: a writer finds the connection open, a close queues its marker, the
    writer counts, flags and sends, and its write returns Ok behind the marker; the driver then
    takes the marker. -/
theorem close_race {s : St} (hf : Fresh id s) (y : Exec) (b : ByteArray) :
    ∃ s', Reach id x t s s' ∧ s'.ghost.stop = some .marker ∧ s'.ghost.ahead = [] ∧ s'.ghost.behind = [b] := by
  obtain ⟨w, g⟩ := s
  obtain ⟨v, hv, hfr, hg⟩ := hf
  dsimp only at hv hg
  subst hg
  have hov : v.state.isOpen = true := by rw [hfr.state]; rfl
  have run := (@leads_check id x t v {} b hov).trans <| (leads_close y hov).trans <|
    (leads_count 0 rfl rfl).trans <| (leads_flag 0 rfl rfl).trans <| (leads_send y 0 rfl rfl (by exact hfr.driverHeld)).trans <|
    -- the marker is first on the queue, the write's item behind it
    @leads_stop id x t _ _ [.data b none] rfl (by exact hfr.driver) (by simp [hfr.driverHeld, hfr.outbound])
  obtain ⟨w', hr, -⟩ := run w hv
  exact ⟨_, hr, rfl, by simp [hfr.driverHeld, Ghost.halt], by simp [hfr.driverHeld, Ghost.halt]⟩

end Affinity.WritePath
