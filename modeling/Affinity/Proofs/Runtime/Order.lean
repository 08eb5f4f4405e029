import Affinity.Proofs.Runtime.System
/-!
The order in which each worker runs what it is given.

`St.log s k` is everything worker `k` has been given: the commands it took (and ran), those it
dropped behind its stop, and those still waiting. `Halting` is the invariant of every reached
state: a stop is given only once the runtime stops, a worker takes nothing after its stop, its
thread ends exactly when it takes the stop (a job that panics does not end it), and nothing
waits on it afterwards. `Grows` says that from one state to a later one every worker's log and
what it took only grew at the end.

From them, `worker_order`: each worker runs its commands one at a time in the order they were
given, whatever the threads and contexts they came from; everything given before its stop runs,
once; and nothing behind the stop runs.
-/

namespace Affinity

theorem Registry.not_places_stop (r : Registry) (k : Nat) : ¬ r.Places k .stop := by
  rintro ⟨c, hc, -⟩
  cases hc

namespace RuntimeSystem

/-- The commands worker `k` has been given, oldest first: those it took, those it dropped when it
    stopped, and those still waiting. -/
def St.log (s : St) (k : Nat) : List Command := s.ghost.taken k ++ s.ghost.dropped k ++ s.world.queue k

/-- How workers take their commands: a stop is given to a worker only once the runtime stops; a
    worker takes nothing after its stop, its thread ends exactly when it takes it, and from then
    on nothing waits on it; a worker drops commands only at its stop. -/
structure Halting (s : St) : Prop where
  stopped : ∀ k, .stop ∈ s.log k → s.world.running = false
  last : ∀ k, .stop ∈ s.ghost.taken k → ∃ pre, s.ghost.taken k = pre ++ [.stop] ∧ .stop ∉ pre
  alive : ∀ k, k < s.world.workers.size → (s.world.alive k = false ↔ .stop ∈ s.ghost.taken k)
  drained : ∀ k, .stop ∈ s.ghost.taken k → s.world.queue k = []
  kept : ∀ k, .stop ∉ s.ghost.taken k → s.ghost.dropped k = []

namespace Halting

variable {w w' : World} {g : Ghost}

theorem of_start {s : St} (h : Start s) : Halting s where
  stopped k hk := by
    cases hv : s.world.workers[k]? with
    | none => simp [St.log, h.taken, h.dropped, World.queue, hv] at hk
    | some v => simp [St.log, h.taken, h.dropped, World.queue, hv, (h.idle k v hv).1] at hk
  last k hk := by simp [h.taken] at hk
  alive k hk := by
    have hv : s.world.workers[k]? = some s.world.workers[k] := Array.getElem?_eq_getElem hk
    simp [World.alive, hv, (h.idle k _ hv).2.2, h.taken]
  drained k hk := by simp [h.taken] at hk
  kept k _ := h.dropped k

/-- A step that changes neither the workers' queues and threads nor whether the runtime runs. -/
theorem congr (hh : Halting ⟨w, g⟩) (hrun : w'.running = w.running) (hs : w'.workers.size = w.workers.size)
    (ha : ∀ k, w'.alive k = w.alive k) (hq : ∀ k, w'.queue k = w.queue k) : Halting ⟨w', g⟩ where
  stopped k hk := by
    rw [hrun]
    exact hh.stopped k (by simpa only [St.log, hq] using hk)
  last := hh.last
  alive k hk := by rw [ha]; exact hh.alive k (hs ▸ hk)
  drained k hk := by rw [hq]; exact hh.drained k hk
  kept := hh.kept

/-- Work routed through the dispatcher adds no stop, and adds nothing once the runtime stops. -/
theorem routes (hh : Halting ⟨w, g⟩) (h : w.Routes w') : Halting ⟨w', g⟩ where
  stopped k hk := by
    obtain ⟨more, hq, -, hm⟩ := h.queued k
    rw [h.running]
    apply hh.stopped k
    simp only [St.log, hq, List.mem_append] at hk ⊢
    rcases hk with (hk | hk) | hk | hk
    · exact .inl (.inl hk)
    · exact .inl (.inr hk)
    · exact .inr hk
    · exact absurd (hm _ hk) (Registry.not_places_stop _ k)
  last := hh.last
  alive k hk := by rw [h.alive]; exact hh.alive k (h.size ▸ hk)
  drained k hk := by
    obtain ⟨more, hq, hr, -⟩ := h.queued k
    have hlog : Command.stop ∈ St.log ⟨w, g⟩ k := by simp [St.log, hk]
    rw [hq, hh.drained k hk, hr (hh.stopped k hlog)]
    rfl
  kept := hh.kept

theorem shutdown (hh : Halting ⟨w, g⟩) : Halting ⟨w.stopAll, g⟩ where
  stopped _ _ := rfl
  last := hh.last
  alive k hk := by
    rw [World.alive_stopAll]
    exact hh.alive k (by simpa [World.stopAll] using hk)
  drained k hk := by
    rw [World.queue_stopAll, hh.drained k hk]
    -- a worker that took its stop has no thread left to stop
    have hdead : w.alive k = false := by
      rcases Nat.lt_or_ge k w.workers.size with hlt | hge
      · exact (hh.alive k hlt).mpr hk
      · simp [World.alive, Array.getElem?_eq_none hge]
    simp [hdead]
  kept := hh.kept

variable {k : Nat} {cmd : Command} {rest : List Command}

theorem queue_pop (hq : w.queue k = cmd :: rest) (j : Nat) :
    (w.modifyWorker k ({ · with commands := rest })).queue j = if k = j then rest else w.queue j := by
  rw [World.queue_modifyWorker]
  split
  · rename_i hkj
    subst hkj
    cases hv : w.workers[k]? with
    | none => simp [World.queue, hv] at hq
    | some v => rfl
  · rfl

/-- A worker with something queued has not taken its stop, and so has dropped nothing. -/
theorem waiting (hh : Halting ⟨w, g⟩) (hq : w.queue k = cmd :: rest) :
    Command.stop ∉ g.taken k ∧ g.dropped k = [] := by
  have hnot : Command.stop ∉ g.taken k := fun h => by rw [hh.drained k h] at hq; cases hq
  exact ⟨hnot, hh.kept k hnot⟩

/-- A stop waits on a worker only once the runtime has stopped. -/
theorem stopped_of_queue (hh : Halting ⟨w, g⟩) (hq : w.queue k = .stop :: rest) : w.running = false :=
  hh.stopped k (by simp [St.log, hq])

/-- A worker takes a command other than its stop: the command moves from its queue to what it
    took. -/
theorem take (hh : Halting ⟨w, g⟩) (hq : w.queue k = cmd :: rest) (hcmd : cmd ≠ .stop) :
    Halting ⟨w.modifyWorker k ({ · with commands := rest }),
      { g with taken := Function.update g.taken k (g.taken k ++ [cmd]) }⟩ := by
  obtain ⟨hnot, hdrop⟩ := hh.waiting hq
  have hcmd' : Command.stop ∉ [cmd] := by simpa using Ne.symm hcmd
  refine ⟨fun j hj => ?_, fun j hj => ?_, fun j hj => ?_, fun j hj => ?_, fun j hj => ?_⟩
  · -- a stop now given to a worker was given to it before
    apply hh.stopped j
    by_cases hjk : j = k
    · subst hjk
      simp only [St.log, queue_pop hq, Function.update_self, hdrop, List.append_nil,
        List.mem_append] at hj ⊢
      rw [hq]
      rcases hj with (hj | hj) | hj
      · exact .inl hj
      · exact absurd hj hcmd'
      · exact .inr (List.mem_cons_of_mem _ hj)
    · simpa [St.log, queue_pop hq, Function.update_of_ne hjk, Ne.symm hjk] using hj
  · by_cases hjk : j = k
    · subst hjk
      simp only [Function.update_self, List.mem_append] at hj
      exact absurd (hj.resolve_left hnot) hcmd'
    · simpa [Function.update_of_ne hjk] using hh.last j (by simpa [Function.update_of_ne hjk] using hj)
  · have hs : (w.modifyWorker k ({ · with commands := rest })).workers.size = w.workers.size :=
      World.size_workers_modifyWorker _ _ _
    dsimp only
    rw [World.alive_modifyWorker_of ?_]
    swap
    · exact fun _ => rfl
    by_cases hjk : j = k
    · subst hjk
      rw [Function.update_self, hh.alive j (hs ▸ hj)]
      simp [hcmd']
    · rw [Function.update_of_ne hjk]
      exact hh.alive j (hs ▸ hj)
  · by_cases hjk : j = k
    · subst hjk
      simp only [Function.update_self, List.mem_append] at hj
      exact absurd (hj.resolve_left hnot) hcmd'
    · dsimp only
      rw [queue_pop hq, if_neg (Ne.symm hjk)]
      exact hh.drained j (by simpa [Function.update_of_ne hjk] using hj)
  · by_cases hjk : j = k
    · subst hjk
      exact hdrop
    · exact hh.kept j (by simpa [Function.update_of_ne hjk] using hj)

/-- Once the runtime stops, a worker that takes its stop ends with an empty queue, and every other
    queue is as it was. -/
theorem queue_stopped (hrun : w.running = false) (hq : w.queue k = cmd :: rest)
    (hr : (w.modifyWorker k ({ · with commands := rest })).Routes w') (j : Nat) :
    (w'.modifyWorker k Worker.halt).queue j = if k = j then [] else w.queue j := by
  rw [World.queue_modifyWorker]
  split
  · rename_i hkj
    subst hkj
    cases w'.workers[k]? <;> rfl
  · rename_i hkj
    -- nothing is queued once the runtime stops
    obtain ⟨more, hm, hnil, -⟩ := hr.queued j
    rw [hm, hnil hrun, List.append_nil, queue_pop hq, if_neg hkj]

theorem alive_stopped (hr : (w.modifyWorker k ({ · with commands := rest })).Routes w') (j : Nat) :
    (w'.modifyWorker k Worker.halt).alive j = if k = j then false else w.alive j := by
  rw [World.alive_modifyWorker]
  split
  · rename_i hkj
    subst hkj
    cases w'.workers[k]? <;> rfl
  · rw [hr.alive, World.alive_modifyWorker_of ?_]
    exact fun _ => rfl

/-- A worker takes its stop: its thread ends, and what was queued behind the stop is dropped. -/
theorem stop (hh : Halting ⟨w, g⟩) (hq : w.queue k = .stop :: rest)
    (hr : (w.modifyWorker k ({ · with commands := rest })).Routes w') :
    Halting ⟨w'.modifyWorker k Worker.halt,
      { g with taken := Function.update g.taken k (g.taken k ++ [.stop]),
               dropped := Function.update g.dropped k rest }⟩ := by
  have hrun : w.running = false := hh.stopped_of_queue hq
  have hnot : Command.stop ∉ g.taken k := (hh.waiting hq).1
  have hsize : (w'.modifyWorker k Worker.halt).workers.size = w.workers.size := by
    rw [World.size_workers_modifyWorker, hr.size, World.size_workers_modifyWorker]
  refine ⟨fun _ _ => ?_, fun j hj => ?_, fun j hj => ?_, fun j hj => ?_, fun j hj => ?_⟩
  · show (w'.modifyWorker k Worker.halt).running = false
    exact hr.running.trans hrun
  · by_cases hjk : j = k
    · subst hjk
      exact ⟨g.taken j, Function.update_self .., hnot⟩
    · simpa [Function.update_of_ne hjk] using hh.last j (by simpa [Function.update_of_ne hjk] using hj)
  · dsimp only
    rw [alive_stopped hr]
    by_cases hjk : j = k
    · subst hjk
      simp
    · rw [if_neg (Ne.symm hjk), Function.update_of_ne hjk]
      exact hh.alive j (hsize ▸ hj)
  · dsimp only
    rw [queue_stopped hrun hq hr]
    by_cases hjk : j = k
    · rw [if_pos hjk.symm]
    · rw [if_neg (Ne.symm hjk)]
      exact hh.drained j (by simpa [Function.update_of_ne hjk] using hj)
  · by_cases hjk : j = k
    · subst hjk
      simp at hj
    · simpa [Function.update_of_ne hjk] using hh.kept j (by simpa [Function.update_of_ne hjk] using hj)

/-- A worker that takes a command keeps the way workers take their commands. -/
theorem run (hh : Halting ⟨w, g⟩) (k : Nat) :
    Halting ⟨(World.runCommands idle k 1 w []).2.2, g.take k (w.queue k)⟩ := by
  cases hq : w.queue k with
  | nil => rw [World.runCommands_empty idle hq]; exact hh
  | cons cmd rest =>
    cases cmd with
    | run c job =>
      rw [World.runCommands_run idle hq]
      exact ((hh.take hq (by simp)).routes (.withRegistry (.bind _ c))).routes (World.routes_runJob k _ job)
    | spawn c kind =>
      rw [World.runCommands_spawn idle hq]
      have h₁ := (hh.take hq (by simp)).routes (.withRegistry (.bind _ c))
      obtain ⟨hq', ha, hrun, hs⟩ := World.startTask_frame (w := w.takeFront k c rest) (k := k) c kind
      exact h₁.congr hrun hs ha hq'
    | stop =>
      rw [World.runCommands_stop idle hq]
      obtain ⟨w', hr, he⟩ := World.stopWorker_eq (w := w.modifyWorker k ({ · with commands := rest })) k
      rw [he]
      exact hh.stop hq hr

theorem ghost (hh : Halting ⟨w, g⟩) {g' : Ghost} (ht : g'.taken = g.taken) (hd : g'.dropped = g.dropped) :
    Halting ⟨w, g'⟩ where
  stopped k hk := hh.stopped k (by simpa only [St.log, ht, hd] using hk)
  last k hk := by rw [ht] at hk ⊢; exact hh.last k hk
  alive k hk := by rw [ht]; exact hh.alive k hk
  drained k hk := hh.drained k (ht ▸ hk)
  kept k hk := by rw [hd]; exact hh.kept k (ht ▸ hk)

/-- A step that leaves the workers alone. -/
theorem still (hh : Halting ⟨w, g⟩) {g' : Ghost} (hw : w'.workers = w.workers) (hrun : w'.running = w.running)
    (ht : g'.taken = g.taken) (hd : g'.dropped = g.dropped) : Halting ⟨w', g'⟩ :=
  (hh.congr hrun (by rw [hw]) (fun k => by simp only [World.alive, hw])
    fun k => by simp only [World.queue, hw]).ghost ht hd

theorem step {s t : St} (hh : Halting s) (h : Step s t) : Halting t := by
  cases h with
  | create x hx => exact hh.still (by rfl) (by rfl) (by rfl) (by rfl)
  | run k => exact hh.run k
  | shutdown _ => exact hh.shutdown
  | call h => exact hh.routes h
  | openMailbox => exact hh.still (by rfl) (by rfl) (by rfl) (by rfl)
  | register _ _ _ _ => exact hh.still (by rfl) (by rfl) (by rfl) (by rfl)
  | unregister _ _ _ => exact hh.still (by rfl) (by rfl) (by split <;> rfl) (by split <;> rfl)

end Halting


section Logs

variable {w w' : World} {g : Ghost} {k : Nat} {cmd : Command} {rest : List Command}

/-- A worker that takes a command other than its stop moves it from its queue to what it took;
    when nothing else is queued, every worker's log stays as it was. -/
theorem log_take (hh : Halting ⟨w, g⟩) (hq : w.queue k = cmd :: rest)
    (hw : ∀ j, w'.queue j = (w.modifyWorker k ({ · with commands := rest })).queue j) (j : Nat) :
    St.log ⟨w', { g with taken := Function.update g.taken k (g.taken k ++ [cmd]) }⟩ j = St.log ⟨w, g⟩ j := by
  obtain ⟨-, hdrop⟩ := hh.waiting hq
  by_cases hjk : j = k
  · subst hjk
    simp [St.log, hw, Halting.queue_pop hq, hdrop, hq]
  · simp [St.log, hw, Halting.queue_pop hq, Function.update_of_ne hjk, Ne.symm hjk]

/-- A worker that takes its stop moves it to what it took and the rest of its queue to what it
    dropped: every worker's log stays as it was. -/
theorem log_stop (hh : Halting ⟨w, g⟩) (hq : w.queue k = .stop :: rest)
    (hr : (w.modifyWorker k ({ · with commands := rest })).Routes w') (j : Nat) :
    St.log ⟨w'.modifyWorker k Worker.halt,
      { g with taken := Function.update g.taken k (g.taken k ++ [.stop]),
               dropped := Function.update g.dropped k rest }⟩ j = St.log ⟨w, g⟩ j := by
  have hrun : w.running = false := hh.stopped_of_queue hq
  obtain ⟨-, hdrop⟩ := hh.waiting hq
  by_cases hjk : j = k
  · subst hjk
    simp [St.log, Halting.queue_stopped hrun hq hr, hdrop, hq]
  · simp [St.log, Halting.queue_stopped hrun hq hr, Function.update_of_ne hjk, Ne.symm hjk]

end Logs

/-- From `s` to `t`, what each worker was given and what it took only grew at the end. -/
def Grows (s t : St) : Prop := ∀ k, s.log k <+: t.log k ∧ s.ghost.taken k <+: t.ghost.taken k

namespace Grows

variable {w w' : World} {g g' : Ghost}

theorem refl (s : St) : Grows s s := fun _ => ⟨List.prefix_refl _, List.prefix_refl _⟩

theorem trans {s t u : St} (h₁ : Grows s t) (h₂ : Grows t u) : Grows s u :=
  fun k => ⟨(h₁ k).1.trans (h₂ k).1, (h₁ k).2.trans (h₂ k).2⟩

/-- A step that leaves every queue and what the workers took and dropped as they were. -/
theorem still (hq : ∀ k, w'.queue k = w.queue k) (ht : g'.taken = g.taken) (hd : g'.dropped = g.dropped) :
    Grows ⟨w, g⟩ ⟨w', g'⟩ := fun k => by
  refine ⟨?_, by rw [ht]⟩
  simp only [St.log, hq, ht, hd]
  exact List.prefix_refl _

/-- Routed work only adds commands at the ends of the queues. -/
theorem routes (h : w.Routes w') : Grows ⟨w, g⟩ ⟨w', g⟩ := fun k => by
  obtain ⟨more, hq, -, -⟩ := h.queued k
  refine ⟨⟨more, ?_⟩, List.prefix_refl _⟩
  simp only [St.log, hq, List.append_assoc]

theorem shutdown : Grows ⟨w, g⟩ ⟨w.stopAll, g⟩ := fun k => by
  refine ⟨⟨if w.alive k then [.stop] else [], ?_⟩, List.prefix_refl _⟩
  simp only [St.log, World.queue_stopAll, List.append_assoc]

variable {k : Nat} {cmd : Command} {rest : List Command}

/-- Taking a command other than a stop moves it from the front of the queue to the end of what
    the worker took. -/
theorem take (hh : Halting ⟨w, g⟩) (hq : w.queue k = cmd :: rest) :
    Grows ⟨w, g⟩ ⟨w.modifyWorker k ({ · with commands := rest }),
      { g with taken := Function.update g.taken k (g.taken k ++ [cmd]) }⟩ := fun j => by
  have hlog := log_take hh hq (fun _ => rfl) j
  refine ⟨⟨[], by rw [List.append_nil, hlog]⟩, ?_⟩
  by_cases hjk : j = k
  · subst hjk
    simp
  · simp [Function.update_of_ne hjk]

/-- Taking its stop moves the stop to what the worker took and the rest to what it dropped. -/
theorem stop (hh : Halting ⟨w, g⟩) (hq : w.queue k = .stop :: rest)
    (hr : (w.modifyWorker k ({ · with commands := rest })).Routes w') :
    Grows ⟨w, g⟩ ⟨w'.modifyWorker k Worker.halt,
      { g with taken := Function.update g.taken k (g.taken k ++ [.stop]),
               dropped := Function.update g.dropped k rest }⟩ := fun j => by
  have hlog := log_stop hh hq hr j
  refine ⟨⟨[], by rw [List.append_nil, hlog]⟩, ?_⟩
  by_cases hjk : j = k
  · subst hjk
    simp
  · simp [Function.update_of_ne hjk]

theorem run (hh : Halting ⟨w, g⟩) (k : Nat) :
    Grows ⟨w, g⟩ ⟨(World.runCommands idle k 1 w []).2.2, g.take k (w.queue k)⟩ := by
  cases hq : w.queue k with
  | nil => rw [World.runCommands_empty idle hq]; exact refl _
  | cons cmd rest =>
    cases cmd with
    | run c job =>
      rw [World.runCommands_run idle hq]
      exact ((take hh hq).trans (routes (.withRegistry (.bind _ c)))).trans (routes (World.routes_runJob k _ job))
    | spawn c kind =>
      rw [World.runCommands_spawn idle hq]
      obtain ⟨hq', -, -, -⟩ := World.startTask_frame (w := w.takeFront k c rest) (k := k) c kind
      exact ((take hh hq).trans (routes (.withRegistry (.bind _ c)))).trans (still hq' rfl rfl)
    | stop =>
      rw [World.runCommands_stop idle hq]
      obtain ⟨w', hr, he⟩ := World.stopWorker_eq (w := w.modifyWorker k ({ · with commands := rest })) k
      rw [he]
      exact stop hh hq hr

theorem step {s t : St} (hh : Halting s) (h : Step s t) : Grows s t := by
  cases h with
  | create x hx => exact still (fun _ => by rfl) (by rfl) (by rfl)
  | run k => exact run hh k
  | shutdown _ => exact shutdown
  | call h => exact routes h
  | openMailbox => exact still (fun _ => by rfl) (by rfl) (by rfl)
  | register _ _ _ _ => exact still (fun _ => by rfl) (by rfl) (by rfl)
  | unregister _ _ _ => exact still (fun _ => by rfl) (by split <;> rfl) (by split <;> rfl)

end Grows


namespace Ghost

theorem taken_take_of_ne (g : Ghost) {j k : Nat} (hjk : j ≠ k) :
    ∀ cmds, (g.take j cmds).taken k = g.taken k
  | [] => rfl
  | .stop :: _ | .run _ _ :: _ | .spawn _ _ :: _ => Function.update_of_ne (Ne.symm hjk) ..

end Ghost

/-- A worker that has taken its stop takes nothing more. -/
theorem Halting.taken_step {s t : St} (hh : Halting s) (h : Step s t) {k : Nat}
    (hk : .stop ∈ s.ghost.taken k) : t.ghost.taken k = s.ghost.taken k := by
  cases h with
  | run j =>
    by_cases hjk : j = k
    · subst hjk
      rw [hh.drained j hk]
      rfl
    · exact Ghost.taken_take_of_ne _ hjk _
  | unregister _ _ _ => split <;> rfl
  | create _ _ | shutdown _ | call _ | openMailbox | register _ _ _ _ => rfl

theorem Reach.halting {s t : St} (h : Reach s t) (hh : Halting s) : Halting t :=
  Reach.induct Halting (fun hh h => hh.step h) hh h

theorem Reach.grows {s t : St} (h : Reach s t) (hh : Halting s) : Grows s t := by
  induction h with
  | refl => exact .refl _
  | step hr hu ih => exact ih.trans (Grows.step (hr.halting hh) hu)

theorem Reach.taken_final {s t : St} (h : Reach s t) (hh : Halting s) {k : Nat}
    (hk : .stop ∈ s.ghost.taken k) : t.ghost.taken k = s.ghost.taken k := by
  induction h with
  | refl => rfl
  | step hr hu ih => exact (((hr.halting hh).taken_step hu) (ih ▸ hk)).trans ih

/-- How the workers run what they are given, from state `s` to a later state `t`: each worker's
    log only grows at the end, and so does what it ran; it runs its log from the front, one
    command at a time; its thread ends exactly when it takes its stop; everything given before
    the stop ran, and everything behind it was dropped; after the stop it runs nothing more; and
    a stop is given only once the runtime stops. -/
structure InOrder (s t : St) : Prop where
  given : ∀ k, s.log k <+: t.log k
  ran : ∀ k, s.ghost.taken k <+: t.ghost.taken k
  fifo : ∀ k, t.ghost.taken k <+: t.log k
  alive : ∀ k, k < t.world.workers.size → (t.world.alive k = false ↔ .stop ∈ t.ghost.taken k)
  stop : ∀ k, .stop ∈ t.ghost.taken k → ∃ pre, .stop ∉ pre ∧ t.ghost.taken k = pre ++ [.stop] ∧
    t.log k = pre ++ .stop :: t.ghost.dropped k
  final : ∀ k, .stop ∈ s.ghost.taken k → t.ghost.taken k = s.ghost.taken k
  shutdown : ∀ k, .stop ∈ t.log k → t.world.running = false

theorem worker_order {s₀ s t : St} (h₀ : Start s₀) (hs : Reach s₀ s) (ht : Reach s t) : InOrder s t := by
  have hh : Halting s := hs.halting (.of_start h₀)
  have hh' : Halting t := ht.halting hh
  have hg : Grows s t := ht.grows hh
  refine ⟨fun k => (hg k).1, fun k => (hg k).2, fun k => ?_, hh'.alive, fun k hk => ?_,
    fun k hk => ht.taken_final hh hk, hh'.stopped⟩
  · rw [St.log, List.append_assoc]
    exact List.prefix_append _ _
  · -- the stop is the last command taken, and nothing waits behind it
    obtain ⟨pre, hpre, hnot⟩ := hh'.last k hk
    refine ⟨pre, hnot, hpre, ?_⟩
    rw [St.log, hpre, hh'.drained k hk]
    simp

/-- A job posted onto a new context of a one-worker runtime is the first command the worker runs. -/
theorem posted_job_runs_in_order :
    ∃ t, Reach (St.idle 1) t ∧ t.ghost.taken 0 = [.run ⟨1⟩ (.work (.record (.run "a")))] ∧
      InOrder (St.idle 1) t := by
  let w₁ := ((St.idle 1).world.create {}).2
  let s₁ : St := ⟨w₁, (St.idle 1).ghost.record w₁.registry⟩
  let s₂ : St := ⟨w₁.runOnOrDrop {} ⟨1⟩ (.record (.run "a")), s₁.ghost⟩
  let s₃ : St := ⟨(World.runCommands idle 0 1 s₂.world []).2.2, s₂.ghost.take 0 (s₂.world.queue 0)⟩
  have h₀ : Start (St.idle 1) := start_idle (by decide)
  have hr : Reach (St.idle 1) s₃ :=
    .step (.step (.step (.refl _) (.create {} (fun _ h => by cases h)))
      (.call (World.routes_runOnOrDrop {} ⟨1⟩ _))) (.run 0)
  exact ⟨s₃, hr, rfl, worker_order h₀ (.refl _) hr⟩

end RuntimeSystem

end Affinity
