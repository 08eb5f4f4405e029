import Affinity.Proofs.Pool.Answers
import Affinity.Machine.Turn
/-!
Acquire handlers in the running system.

`acquire_on` calls no handler itself: whatever it decides, it only changes the pool and its
connections and queues commands, each on the worker of the context it is for (`World.Defers`).
A queued answer later runs as a command of that worker with its context current
(`runCommand_answer`), and a connect task that fails reports the error to the pool's
exception handler just before it tells the requester (`connectFailed_reports_first`).

With the pool system (`PoolSystem.Sys`) for the interleavings of the pool's threads, this gives
the contract of acquire handlers: each runs at most once, later, on its own context, and with a
connection, the pool's close or an admission error.
-/

namespace Affinity

/-- Whether a note is written by an acquire handler. -/
def Note.answers : Note → Bool
  | .acquired .. | .acquireFailed .. => true
  | _ => false

/-- The note an acquire handler of a pool writes when it is called with `a`. -/
def Note.ofAnswer (pool : Nat) : Except Error Nat → Note
  | .ok c => .acquired pool c
  | .error e => .acquireFailed pool e

/-- The context a command runs under. -/
def Command.context : Command → Option ContextId
  | .run ctx _ | .spawn ctx _ => some ctx
  | .stop => none

theorem Pool.nextWaiter_report (p : Pool) : p.nextWaiter.2.report = p.report := by
  unfold Pool.nextWaiter
  split
  · rfl
  · split <;> rfl

theorem Pool.dropFailed_report (p : Pool) (id : Nat) : (p.dropFailed id).2.report = p.report := by
  unfold Pool.dropFailed
  dsimp only
  have hq : (if (p.leaseOf id).isSome then p.forget id else p).report = p.report := by split <;> rfl
  generalize (if (p.leaseOf id).isSome then p.forget id else p) = q at hq
  have hn := q.nextWaiter_report
  cases h : q.nextWaiter with
  | mk next p' =>
    rw [h] at hn
    simp only at hn ⊢
    rw [hn, hq]

namespace World

/-- The commands waiting on worker `k`. -/
def commandsOf (w : World) (k : Nat) : List Command := (w.workers[k]?.map (·.commands)).getD []

/-- `w'` follows from `w` by work that defers every acquire handler: no handler ran, the
    registry is unchanged, and each command queued sits on the worker of its context. -/
structure Defers (w w' : World) : Prop where
  registry : w'.registry = w.registry
  notes : ∃ extra, w'.notes.toList = w.notes.toList ++ extra ∧ ∀ ev ∈ extra, ev.note.answers = false
  queued : ∀ k, ∃ more, w'.commandsOf k = w.commandsOf k ++ more ∧
    ∀ c ∈ more, ∃ ctx, c.context = some ctx ∧ (w.registry.workerOf ctx).map (·.index) = some k

variable {w w' w'' : World} {x : Exec}

theorem commandsOf_modifyWorker (i : Nat) {f : Worker → Worker} (hf : ∀ v, (f v).commands = v.commands)
    (k : Nat) : (w.modifyWorker i f).commandsOf k = w.commandsOf k := by
  simp only [commandsOf, modifyWorker, Array.getElem?_modify]
  split
  · cases w.workers[k]? <;> simp [hf]
  · rfl

@[simp] theorem notes_abort (id : Nat) : (w.abort id).2.notes = w.notes := by
  unfold abort; split <;> rfl

@[simp] theorem pools_abort (id : Nat) : (w.abort id).2.pools = w.pools := by
  unfold abort; split <;> rfl

namespace Defers

theorem of_eq (hr : w'.registry = w.registry) (hn : w'.notes = w.notes)
    (hc : ∀ k, w'.commandsOf k = w.commandsOf k) : Defers w w' where
  registry := hr
  notes := ⟨[], by simp [hn], by simp⟩
  queued k := ⟨[], by simp [hc k], by simp⟩

theorem refl (w : World) : Defers w w := of_eq rfl rfl fun _ => rfl

theorem trans (h₁ : Defers w w') (h₂ : Defers w' w'') : Defers w w'' where
  registry := h₂.registry.trans h₁.registry
  notes := by
    obtain ⟨e₁, h₁, n₁⟩ := h₁.notes
    obtain ⟨e₂, h₂, n₂⟩ := h₂.notes
    refine ⟨e₁ ++ e₂, by rw [h₂, h₁, List.append_assoc], fun ev hev => ?_⟩
    rcases List.mem_append.mp hev with h | h
    · exact n₁ ev h
    · exact n₂ ev h
  queued k := by
    obtain ⟨m₁, hm₁, p₁⟩ := h₁.queued k
    obtain ⟨m₂, hm₂, p₂⟩ := h₂.queued k
    refine ⟨m₁ ++ m₂, by rw [hm₂, hm₁, List.append_assoc], fun c hc => ?_⟩
    rcases List.mem_append.mp hc with h | h
    · exact p₁ c h
    · -- the second stretch placed its commands by the same registry
      rw [← h₁.registry]
      exact p₂ c h

/-- Work that starts with a step that touches no registry, note or worker. -/
theorem pre (h : Defers w' w'') (hr : w'.registry = w.registry) (hn : w'.notes = w.notes)
    (hw : w'.workers = w.workers) : Defers w w'' :=
  (of_eq hr hn fun k => by simp only [commandsOf, hw]).trans h

theorem note {n : Note} (hn : n.answers = false) : Defers w (w.note x n) where
  registry := rfl
  notes := ⟨[⟨n, x.ctx⟩], by simp [World.note], by simp [hn]⟩
  queued _ := ⟨[], by simp [World.note, commandsOf], by simp⟩

/-- Queuing a command on the worker of its context. -/
theorem submit {c : Command} {ctx : ContextId} {k : WorkerId} (hc : c.context = some ctx)
    (hk : w.registry.workerOf ctx = some k) (h : w.submit k.index c = .ok w') : Defers w w' := by
  unfold World.submit at h
  split at h
  · cases h
    refine ⟨rfl, ⟨[], by simp [modifyWorker], by simp⟩, fun j => ?_⟩
    by_cases hj : k.index = j
    · subst hj
      cases hv : w.workers[k.index]? with
      | none => exact ⟨[], by simp [commandsOf, modifyWorker, Array.getElem?_modify, hv], by simp⟩
      | some v =>
        refine ⟨[c], by simp [commandsOf, modifyWorker, Array.getElem?_modify, hv, Worker.push], ?_⟩
        intro c' hc'
        rw [List.mem_singleton.mp hc']
        exact ⟨ctx, hc, by simp [hk]⟩
    · exact ⟨[], by simp [commandsOf, modifyWorker, Array.getElem?_modify, hj], by simp⟩
  · cases h

theorem notes_of (h : Defers w w') {L : List Event} (hw : w.notes.toList = L) :
    ∃ extra, w'.notes.toList = L ++ extra ∧ ∀ ev ∈ extra, ev.note.answers = false := by
  obtain ⟨extra, he, hn⟩ := h.notes
  exact ⟨extra, hw ▸ he, hn⟩

end Defers

theorem defers_post {ctx : ContextId} {job : Job} (h : w.post ctx job = .ok w') : Defers w w' := by
  unfold post at h
  split at h
  · cases h
  · exact .submit rfl ‹_› h

theorem defers_spawnOn {ctx : ContextId} {t : TaskKind} (h : w.spawnOn ctx t = .ok w') : Defers w w' := by
  unfold spawnOn at h
  split at h
  · cases h
  · exact .submit rfl ‹_› h

theorem defers_abort (id : Nat) : Defers w (w.abort id).2 :=
  .of_eq (by unfold abort; split <;> rfl) (notes_abort id) fun _ => by unfold abort; split <;> rfl

/-- Waking a task puts it on a run queue, never among the commands. -/
theorem defers_wake (t : Nat) : Defers w (w.wake x t) := by
  unfold wake
  split
  · exact .refl w
  · split
    · exact .refl w
    · split
      · exact .of_eq rfl rfl fun _ => rfl
      · split
        · exact .of_eq rfl rfl (commandsOf_modifyWorker _ fun _ => rfl)
        · exact .of_eq rfl rfl (commandsOf_modifyWorker _ fun _ => rfl)

theorem defers_wakeSelecting (id : Nat) : Defers w (w.wakeSelecting x id) := by
  unfold wakeSelecting
  split
  · split
    · exact defers_wake _
    · exact .refl w
  · exact .refl w

theorem defers_close (id : Nat) : Defers w (w.close x id) := by
  unfold close
  split
  · exact .refl w
  · split
    · exact .refl w
    · split
      · exact (defers_wakeSelecting id).pre rfl rfl rfl
      · exact .of_eq rfl rfl fun _ => rfl

theorem defers_report (pool : Nat) (e : Error) : Defers w (w.report x pool e) := by
  unfold report
  split
  · split
    · exact .note rfl
    · exact .refl w
  · exact .refl w

/-- A connect, and a failed connect that is not to answer, run no handler: the chain of
    connects they start for later waiters answers each by its own connect task. -/
theorem defers_connect (x : Exec) (pool : Nat) : ∀ fuel,
    (∀ w ctx, Defers w (w.connect x pool ctx fuel)) ∧
      ∀ w id e, Defers w (w.connectFailed x pool id e false fuel)
  | 0 => ⟨fun w _ => by rw [connect.eq_1]; exact .refl w, fun w _ _ => by rw [connectFailed.eq_1]; exact .refl w⟩
  | fuel + 1 => by
    obtain ⟨ihc, ihf⟩ := defers_connect x pool fuel
    refine ⟨fun w ctx => ?_, fun w id e => ?_⟩
    · rw [connect.eq_2]
      split
      · exact .refl w
      · dsimp only
        split
        · rename_i w' hw
          exact (defers_spawnOn hw).pre rfl rfl rfl
        · exact (ihf _ _ _).pre rfl rfl rfl
    · rw [connectFailed.eq_2]
      split
      rename_i h w₁ hab
      have h₁ : Defers w w₁ := by
        have := defers_abort (w := w) id
        rwa [hab] at this
      refine h₁.trans ?_
      split
      · exact .refl w₁
      · split
        rename_i next p' _
        dsimp only
        have hr : Defers w₁ ((w₁.modifyPool pool fun _ => p').report x pool e) :=
          (defers_report pool e).pre rfl rfl rfl
        refine hr.trans ?_
        simp only [Bool.false_eq_true, if_false]
        split
        · exact ihc _ _
        · exact .refl _

/-- A hand-off posts the answer to the waiting context; a check-in hands off, idles or closes. -/
theorem defers_handOff (x : Exec) (pool : Nat) : ∀ fuel,
    (∀ w id ctx, Defers w (w.handOff x pool id ctx fuel)) ∧
      ∀ w id caller w', w.checkIn x pool id caller fuel = .ok w' → Defers w w'
  | 0 => ⟨fun w _ _ => by rw [handOff.eq_1]; exact .refl w, fun w _ _ w' h => by
      rw [checkIn.eq_1] at h; cases h; exact .refl w⟩
  | fuel + 1 => by
    obtain ⟨ihh, ihc⟩ := defers_handOff x pool fuel
    refine ⟨fun w id ctx => ?_, fun w id caller w' h => ?_⟩
    · rw [handOff.eq_2]
      split
      · rename_i w' hw
        exact (defers_post hw).pre rfl rfl rfl
      · split
        · rename_i w' hw
          exact (ihc _ _ _ _ hw).pre rfl rfl rfl
        · exact .of_eq rfl rfl fun _ => rfl
    · rw [checkIn.eq_2] at h
      split at h
      · split at h
        · cases h
        · dsimp only at h
          split at h
          · cases h
            exact (ihh _ _ _).pre rfl rfl rfl
          · cases h
            exact .of_eq rfl rfl fun _ => rfl
          · cases h
            exact (defers_close _).pre rfl rfl rfl
      · split at h
        · cases h
        · cases h
          exact .refl w
      · cases h
        exact .refl w

/-- `acquire_on` defers its handler, also when it hands over an idle connection. -/
theorem defers_acquireOn {pool : Nat} {ctx : ContextId} (h : w.acquireOn x pool ctx = .ok w') :
    Defers w w' := by
  unfold acquireOn at h
  split at h
  · cases h
  · split at h
    · cases h
      exact .refl w
    · split at h
      · cases h
      · dsimp only at h
        split at h
        · cases h
          exact ((defers_handOff x pool _).1 _ _ _).pre rfl rfl rfl
        · cases h
          exact ((defers_connect x pool _).1 _ _).pre rfl rfl rfl
        · cases h
          exact .of_eq rfl rfl fun _ => rfl

/-- A queued answer runs as a command of its worker, with the context it was posted to
    current: the handler writes its one note there. -/
theorem runCommand_answer {ρ : Type} (exec : Exec → Scenario.Op → World → ρ × World) (k : Nat) (w : World)
    (acc : List ρ) (ctx : ContextId) (pool : Nat) (a : Except Error Nat) :
    (runCommand exec k w acc (.run ctx (.work (.answer pool a)))).2.2.notes.toList =
      w.notes.toList ++ [⟨Note.ofAnswer pool a, some ctx⟩] := by
  cases a with
  | ok c =>
    simp only [runCommand, runJob, perform, count, modifyWorker]
    split <;> simp [World.note, Note.ofAnswer]
  | error e => simp [runCommand, runJob, perform, count, modifyWorker, World.note, Note.ofAnswer]

theorem connectFailed_reports_first {pool : Nat} {p : Pool} (hp : w.pools[pool]? = some p) (x : Exec)
    (id : Nat) (e : Error) (fuel : Nat) :
    ∃ extra, (w.connectFailed x pool id e true (fuel + 1)).notes.toList =
      w.notes.toList ++ ((if p.report then [⟨.poolError pool e, x.ctx⟩] else []) ++
        [⟨.acquireFailed pool e, x.ctx⟩]) ++ extra ∧
      ∀ ev ∈ extra, ev.note.answers = false := by
  rw [connectFailed.eq_2]
  split
  rename_i h w₁ hab
  have hn : w₁.notes = w.notes := by rw [← notes_abort (w := w) id, hab]
  have hp₁ : w₁.pools[pool]? = some p := by rw [← hp, ← pools_abort (w := w) id, hab]
  split
  · rename_i hnone
    rw [hp₁] at hnone
    cases hnone
  · rename_i p₀ hsome
    rw [hp₁] at hsome
    cases hsome
    split
    rename_i next p' hd
    have hrep : p'.report = p.report := by rw [← Pool.dropFailed_report p id, hd]
    have hp₂ : (w₁.modifyPool pool fun _ => p').pools[pool]? = some p' := by
      simp [modifyPool, Array.getElem?_modify, hp₁]
    -- the error is reported, if the pool reports errors, and then the requester is told
    have hw₃ : (((w₁.modifyPool pool fun _ => p').report x pool e).perform x (.answer pool (.error e))).notes.toList =
        w.notes.toList ++ ((if p.report then [⟨.poolError pool e, x.ctx⟩] else []) ++ [⟨.acquireFailed pool e, x.ctx⟩]) := by
      unfold report
      rw [hp₂]
      cases hr : p.report <;> simp [hrep, hr, perform, World.note, modifyPool, hn]
    dsimp only
    simp only [if_true]
    split
    · exact ((defers_connect x pool fuel).1 _ _).notes_of hw₃
    · exact (Defers.refl _).notes_of hw₃

end World

namespace PoolSystem

theorem Sys.answered_le_dues (s : Sys) (r : Request) : s.answers.countP (·.1 == r) ≤ s.dues r := by
  unfold Sys.dues
  omega

theorem Reachable.answered_once {s : Sys} (h : Reachable s) (r : Request) :
    s.answers.countP (·.1 == r) ≤ 1 :=
  Nat.le_trans (s.answered_le_dues r) (h.dues_le_one r)

/-- The contract of acquire handlers. Over every run of the pool's threads, each request's
    handler runs at most once, and with a connection, the pool's close or an admission error; a
    step runs at most one handler, either an answer posted to the request's context or the
    connect task opened for the request, never the acquire itself. In the running system
    `acquire_on` runs no handler and queues each command on its context's worker; a queued
    answer runs there with its context current; and a failed connect is reported before its
    handler hears of it. -/
theorem acquire_handler_deferred_once {s s' : Sys} {a : Action} (hr : Reachable s)
    (hs : s.step a = some s') :
    ((∀ r, s'.answers.countP (·.1 == r) ≤ 1) ∧ ∀ p ∈ s'.answers, Allowed p.2) ∧
    (s'.answers = s.answers ∨ ∃ r b, s'.answers = s.answers ++ [(r, b)] ∧
      ((∃ i, a = .deliver i ∧ s.inbox[i]? = some (r, b)) ∨
        ∃ c k, s.conn? c = some k ∧ k.req = r ∧ k.stage.owes = true ∧ (a = .dial c none ∨ a = .settle c))) ∧
    (∀ (w w' : World) (x : Exec) (pool : Nat) (ctx : ContextId),
      w.acquireOn x pool ctx = .ok w' → w.Defers w') ∧
    (∀ {ρ : Type} (exec : Exec → Scenario.Op → World → ρ × World) (k : Nat) (w : World) (acc : List ρ)
      (ctx : ContextId) (pool : Nat) (b : Except Error Nat),
      (World.runCommand exec k w acc (.run ctx (.work (.answer pool b)))).2.2.notes.toList =
        w.notes.toList ++ [⟨Note.ofAnswer pool b, some ctx⟩]) ∧
    (∀ (w : World) (x : Exec) (pool : Nat) (p : Pool) (id : Nat) (e : Error) (fuel : Nat),
      w.pools[pool]? = some p →
      ∃ extra, (w.connectFailed x pool id e true (fuel + 1)).notes.toList =
        w.notes.toList ++ ((if p.report then [⟨.poolError pool e, x.ctx⟩] else []) ++
          [⟨.acquireFailed pool e, x.ctx⟩]) ++ extra ∧ ∀ ev ∈ extra, ev.note.answers = false) := by
  have hr' : Reachable s' := .step a hr hs
  refine ⟨⟨hr'.answered_once, hr'.outcomes.answers⟩, Sys.answers_step hr.slotInv.tracked hs, ?_, ?_, ?_⟩
  · intro w w' x pool ctx h
    exact World.defers_acquireOn h
  · intro ρ exec k w acc ctx pool b
    exact World.runCommand_answer exec k w acc ctx pool b
  · intro w x pool p id e fuel hp
    exact World.connectFailed_reports_first hp x id e fuel

/-- A request admitted for a new connection is answered by its connect task, once. -/
theorem connected_request_answered_once :
    ∃ s s', (Sys.start { host := "mock", port := 4000 } {} (.memory 0)).run
        [.acquire ⟨1⟩, .insert 0, .spawn 1] = some s ∧
      s.step (.dial 1 none) = some s' ∧ s'.answers.map (fun p => (p.1, p.2.toOption)) = [(⟨0, ⟨1⟩⟩, some 1)] ∧
      ∀ r, s'.answers.countP (·.1 == r) ≤ 1 := by
  have hrun : ((Sys.start { host := "mock", port := 4000 } {} (.memory 0)).run
      [.acquire ⟨1⟩, .insert 0, .spawn 1]).any
      (fun s => (s.step (.dial 1 none)).any fun s' =>
        s'.answers.map (fun p => (p.1, p.2.toOption)) == [(⟨0, ⟨1⟩⟩, some 1)]) = true := by
    decide
  cases h₀ : (Sys.start { host := "mock", port := 4000 } {} (.memory 0)).run
      [.acquire ⟨1⟩, .insert 0, .spawn 1] with
  | none => rw [h₀] at hrun; cases hrun
  | some s =>
    rw [h₀] at hrun
    cases h₁ : s.step (.dial 1 none) with
    | none => simp [h₁] at hrun
    | some s' =>
      simp only [h₁, Option.any_some, beq_iff_eq] at hrun
      exact ⟨s, s', rfl, h₁, hrun,
        (acquire_handler_deferred_once ((Reachable.start _ _ _).run h₀) h₁).1.1⟩

end PoolSystem

end Affinity
