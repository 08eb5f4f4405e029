import Affinity.Proofs.Runtime.Placement
/-!
Mailboxes under any interleaving of register, unregister and send.

`Boxes` is the invariant of every reached state: each mailbox has handed out the ids
`1, …, nextId - 1` in order, its handlers carry ids it handed out, and every id it handed out has
been reported removed once if its handler is gone and never while it is registered. `Keeps` says
that from one state to a later one no mailbox is lost, each only hands out more ids and reports
more removals, and a handler keeps its context until it is removed, for good
(`Mailbox.Evolves`).

From them, `mailbox_delivery`: ids are never handed out twice; registering succeeds exactly for
a live context, on the caller's only when it is bound to one in this runtime; a send runs the
handler inline when the sender is bound to its context, queues one delivery on the context's
worker otherwise, and does nothing for a handler that is gone or a context that was destroyed;
a delivery that runs after its handler was unregistered does nothing; and each handler's
removal is reported exactly once.
-/

namespace Affinity

namespace Mailbox

/-- Mailbox `m` becomes `m'`: it hands out ids after those it had, and a handler it had keeps its
    context until it is removed. -/
structure Evolves (m m' : Mailbox) : Prop where
  next : m.nextId ≤ m'.nextId
  handler : ∀ h, h < m.nextId → m'.contextOf h = m.contextOf h ∨ m'.contextOf h = none

namespace Evolves

theorem refl (m : Mailbox) : Evolves m m := ⟨le_rfl, fun _ _ => .inl rfl⟩

theorem trans {m₁ m₂ m₃ : Mailbox} (h₁ : Evolves m₁ m₂) (h₂ : Evolves m₂ m₃) : Evolves m₁ m₃ where
  next := h₁.next.trans h₂.next
  handler h hh := by
    rcases h₂.handler h (lt_of_lt_of_le hh h₁.next) with he | he
    · rw [he]
      exact h₁.handler h hh
    · exact .inr he

/-- Registering hands out the next id, which no handler had. -/
theorem register {m : Mailbox} (hb : ∀ e ∈ m.entries, e.1 < m.nextId) (c : ContextId) :
    Evolves m (m.register c).2 where
  next := Nat.le_succ _
  handler h hh := .inl (by rw [contextOf_register hb, if_neg (Nat.ne_of_lt hh)])

theorem unregister (m : Mailbox) (h : Nat) : Evolves m (m.unregister h).2 where
  next := le_rfl
  handler h' _ := by
    rw [contextOf_unregister]
    split
    · exact .inr rfl
    · exact .inl rfl

/-- A handler that is gone stays gone. -/
theorem gone {m m' : Mailbox} (he : Evolves m m') {h : Nat} (hlt : h < m.nextId) (hn : m.contextOf h = none) :
    m'.contextOf h = none := by
  rcases he.handler h hlt with he' | he'
  · rw [he', hn]
  · exact he'

end Evolves

/-- A handler's context is the one its entry names. -/
theorem mem_of_contextOf {m : Mailbox} {h : Nat} {c : ContextId} (hc : m.contextOf h = some c) :
    (h, c) ∈ m.entries := by
  simp only [contextOf, Option.map_eq_some_iff] at hc
  obtain ⟨e, hf, rfl⟩ := hc
  have he : e.1 = h := by simpa using List.find?_some hf
  rw [← he]
  exact List.mem_of_find?_eq_some hf

theorem registerIn_ok_iff (m : Mailbox) (r : Registry) (c : ContextId) :
    (∃ p, m.registerIn r c = .ok p) ↔ r.contains c = true := by
  unfold registerIn
  split <;> simp_all

/-- A thread registers on its current context exactly when it is bound to a live context of the
    runtime: a context of another runtime does not count. -/
theorem registerCurrent_view_iff (m : Mailbox) (r : Registry) (th : Thread) (rt : RuntimeId) :
    (∃ p, m.registerCurrent r (th.view rt).ctx = .ok p) ↔
      ∃ c, th.binding = some ⟨rt, c⟩ ∧ r.contains c = true := by
  cases hc : th.current rt with
  | none =>
    simp only [Thread.view, hc, registerCurrent, reduceCtorEq, exists_false, false_iff, not_exists, not_and]
    intro c hb
    rw [(th.current_eq_some rt c).mpr hb] at hc
    cases hc
  | some c =>
    simp only [Thread.view, hc, registerCurrent, registerIn_ok_iff, (th.current_eq_some rt c).mp hc,
      Option.some.injEq, Binding.mk.injEq, true_and]
    refine ⟨fun h => ⟨c, rfl, h⟩, ?_⟩
    rintro ⟨_, rfl, h⟩
    exact h

end Mailbox

namespace World

variable {w : World} {mb h : Nat} {msg : String}

theorem mailboxes_run (w : World) (k : Nat) :
    (runCommands RuntimeSystem.idle k 1 w []).2.2.mailboxes = w.mailboxes := by
  cases hq : w.queue k with
  | nil => rw [runCommands_empty _ hq]
  | cons cmd rest =>
    cases cmd with
    | run c job =>
      rw [runCommands_run _ hq]
      exact (routes_runJob k _ job).mailboxes
    | spawn c kind =>
      rw [runCommands_spawn _ hq]
      cases kind <;> rfl
    | stop =>
      rw [runCommands_stop _ hq]
      obtain ⟨w', hr, he⟩ := stopWorker_eq (w := w.modifyWorker k ({ · with commands := rest })) k
      rw [he]
      exact hr.mailboxes

/-- A delivery runs the handler, once, exactly when it is still registered. -/
theorem perform_deliver {m : Mailbox} (hm : w.mailboxes[mb]? = some m) (x : Exec) :
    w.perform x (.deliver mb h msg) = if (m.contextOf h).isSome then w.note x (.message mb h msg) else w := by
  simp [perform, hm]

/-- A send to a handler that is not registered does nothing. -/
theorem send_unregistered (hn : (w.mailboxes[mb]?).bind (·.contextOf h) = none) (x : Exec) :
    w.send x mb h msg = w := by
  simp [send, hn]

/-- A send does nothing, or runs the delivery inline when the sender is bound to the handler's
    context in this runtime, or queues it on the worker of that context. -/
theorem send_cases (w : World) (th : Thread) (r : RuntimeId) (mb h : Nat) (msg : String) :
    w.send (th.view r) mb h msg = w ∨
    (∃ c, (w.mailboxes[mb]?).bind (·.contextOf h) = some c ∧ th.binding = some ⟨r, c⟩ ∧
      w.send (th.view r) mb h msg = w.perform (th.view r) (.deliver mb h msg)) ∨
    (∃ c k, (w.mailboxes[mb]?).bind (·.contextOf h) = some c ∧ th.binding ≠ some ⟨r, c⟩ ∧
      w.registry.workerOf c = some k ∧
      w.send (th.view r) mb h msg = w.modifyWorker k.index (·.push (.run c (.work (.deliver mb h msg))))) := by
  unfold send
  cases hc : (w.mailboxes[mb]?).bind (·.contextOf h) with
  | none => exact .inl rfl
  | some c =>
    simp only [runOnOrDrop, runOn_view]
    by_cases hb : th.binding = some ⟨r, c⟩
    · rw [if_pos hb]
      exact .inr (.inl ⟨c, rfl, hb, rfl⟩)
    · rw [if_neg hb]
      cases hp : w.post c (.work (.deliver mb h msg)) with
      | error => exact .inl rfl
      | ok w' =>
        obtain ⟨k, hk, rfl⟩ := post_ok hp
        exact .inr (.inr ⟨c, k, rfl, hb, hk, rfl⟩)

/-- A send from off its handler's context to a context that was destroyed does nothing. -/
theorem send_destroyed (th : Thread) (r : RuntimeId) {c : ContextId}
    (hc : (w.mailboxes[mb]?).bind (·.contextOf h) = some c) (hb : th.binding ≠ some ⟨r, c⟩)
    (hd : w.registry.contains c = false) : w.send (th.view r) mb h msg = w := by
  rcases send_cases w th r mb h msg with he | ⟨c', hc', hb', -⟩ | ⟨c', k, hc', -, hk, -⟩
  · exact he
  · rw [hc] at hc'
    cases hc'
    exact absurd hb' hb
  · rw [hc] at hc'
    cases hc'
    simp only [Registry.contains, Option.isSome_eq_false_iff, Option.isNone_iff_eq_none] at hd
    simp [Registry.workerOf, hd] at hk

end World

namespace RuntimeSystem

/-- What the mailboxes keep: each has handed out the ids `1, …, nextId - 1`, in order; its
    handlers carry ids it handed out; and an id it handed out has been reported removed once if
    its handler is gone, and never while its handler is registered. -/
structure Boxes (s : St) : Prop where
  issued : ∀ (mb : Nat) (m : Mailbox), s.world.mailboxes[mb]? = some m →
    s.ghost.issued mb = List.range' 1 (m.nextId - 1) ∧ 0 < m.nextId
  handlers : ∀ (mb : Nat) (m : Mailbox), s.world.mailboxes[mb]? = some m →
    ∀ e ∈ m.entries, 0 < e.1 ∧ e.1 < m.nextId
  removed : ∀ (mb : Nat) (m : Mailbox), s.world.mailboxes[mb]? = some m → ∀ h,
    (s.ghost.removed mb).count h = if 0 < h ∧ h < m.nextId ∧ m.contextOf h = none then 1 else 0

namespace Boxes

variable {w w' : World} {g g' : Ghost}

theorem of_start {s : St} (h : Start s) : Boxes s where
  issued mb m hm := by simp [h.mailboxes] at hm
  handlers mb m hm := by simp [h.mailboxes] at hm
  removed mb m hm := by simp [h.mailboxes] at hm

/-- A step that leaves the mailboxes alone. -/
theorem still (hb : Boxes ⟨w, g⟩) (hm : w'.mailboxes = w.mailboxes) (hi : g'.issued = g.issued)
    (hr : g'.removed = g.removed) : Boxes ⟨w', g'⟩ where
  issued mb m h := by rw [hi]; exact hb.issued mb m (hm ▸ h)
  handlers mb m h := hb.handlers mb m (hm ▸ h)
  removed mb m h := by rw [hr]; exact hb.removed mb m (hm ▸ h)

/-- Boxes of a world whose mailbox `mb` changed, with the ghost of `mb` changed alongside. -/
theorem update (hb : Boxes ⟨w, g⟩) {mb : Nat} {m' : Mailbox} (hw : w'.mailboxes = w.mailboxes.modify mb fun _ => m')
    (hmb : mb < w.mailboxes.size)
    (hi : ∀ j, j ≠ mb → g'.issued j = g.issued j) (hr : ∀ j, j ≠ mb → g'.removed j = g.removed j)
    (hnew : g'.issued mb = List.range' 1 (m'.nextId - 1) ∧ 0 < m'.nextId)
    (hent : ∀ e ∈ m'.entries, 0 < e.1 ∧ e.1 < m'.nextId)
    (hrem : ∀ h, (g'.removed mb).count h = if 0 < h ∧ h < m'.nextId ∧ m'.contextOf h = none then 1 else 0) :
    Boxes ⟨w', g'⟩ := by
  have hget : ∀ j, w'.mailboxes[j]? = if mb = j then some m' else w.mailboxes[j]? := by
    intro j
    rw [hw, Array.getElem?_modify]
    split
    · rename_i hj
      subst hj
      simp [Array.getElem?_eq_getElem hmb]
    · rfl
  refine ⟨fun j m hm => ?_, fun j m hm => ?_, fun j m hm => ?_⟩ <;> rw [hget] at hm <;> split at hm
  · cases hm
    rename_i hj
    subst hj
    exact hnew
  · rename_i hj
    rw [hi j (Ne.symm hj)]
    exact hb.issued j m hm
  · cases hm
    exact hent
  · exact hb.handlers j m hm
  · cases hm
    rename_i hj
    subst hj
    exact hrem
  · rename_i hj
    rw [hr j (Ne.symm hj)]
    exact hb.removed j m hm

theorem openMailbox (hb : Boxes ⟨w, g⟩) :
    Boxes ⟨{ w with mailboxes := w.mailboxes.push {} }, g.fresh w.mailboxes.size⟩ := by
  have hget : ∀ j, ({ w with mailboxes := w.mailboxes.push {} } : World).mailboxes[j]? =
      if j = w.mailboxes.size then some {} else w.mailboxes[j]? := fun j => Array.getElem?_push
  refine ⟨fun j m hm => ?_, fun j m hm => ?_, fun j m hm => ?_⟩ <;> rw [hget] at hm <;> split at hm
  · cases hm
    rename_i hj
    subst hj
    simp [Ghost.fresh]
  · rename_i hj
    simpa [Ghost.fresh, Function.update_of_ne hj] using hb.issued j m hm
  · cases hm
    simp
  · exact hb.handlers j m hm
  · cases hm
    rename_i hj
    subst hj
    intro h
    simp only [Ghost.fresh, Function.update_self, List.count_nil]
    split
    · rename_i hh
      omega
    · rfl
  · rename_i hj
    simpa [Ghost.fresh, Function.update_of_ne hj] using hb.removed j m hm

theorem register (hb : Boxes ⟨w, g⟩) {m m' : Mailbox} {mb h : Nat} {target : Option ContextId}
    (hm : w.mailboxes[mb]? = some m) (hr : m.registerCurrent w.registry target = .ok (h, m')) :
    Boxes ⟨w.modifyMailbox mb fun _ => m', g.issue mb h⟩ := by
  obtain ⟨c, -, -, rfl, rfl⟩ := Mailbox.registerCurrent_ok hr
  have hmb : mb < w.mailboxes.size := (Array.getElem?_eq_some_iff.mp hm).1
  obtain ⟨hiss, hpos⟩ := hb.issued mb m hm
  have hent := hb.handlers mb m hm
  refine hb.update rfl hmb (fun j hj => by simp [Ghost.issue, Function.update_of_ne hj]) (fun j _ => rfl)
    ⟨?_, by simp [Mailbox.register]⟩ (fun e he => ?_) (fun h' => ?_)
  · -- the next id joins the ids handed out
    dsimp only at hiss
    obtain ⟨n, hn⟩ : ∃ n, m.nextId = n + 1 := ⟨m.nextId - 1, by omega⟩
    simp only [Ghost.issue, Function.update_self, hiss, Mailbox.register, hn, Nat.add_sub_cancel]
    rw [List.range'_concat, Nat.one_mul, Nat.add_comm 1 n]
  · dsimp only [Mailbox.register]
    simp only [Mailbox.register, List.mem_append, List.mem_singleton] at he
    rcases he with he | rfl
    · have := hent e he
      omega
    · dsimp only
      omega
  · show List.count h' (g.removed mb) = _
    rw [hb.removed mb m hm h', Mailbox.contextOf_register (fun e he => (hent e he).2)]
    simp only [Mailbox.register]
    by_cases hh : h' = m.nextId
    · simp [hh]
    · rw [if_neg hh]
      by_cases hlt : h' < m.nextId
      · simp [hlt, show h' < m.nextId + 1 by omega]
      · simp [hlt, show ¬ h' < m.nextId + 1 by omega]

theorem unregister (hb : Boxes ⟨w, g⟩) {m : Mailbox} {mb h : Nat} (hm : w.mailboxes[mb]? = some m) :
    Boxes ⟨w.modifyMailbox mb fun _ => (m.unregister h).2,
      if (m.unregister h).1 then g.remove mb h else g⟩ := by
  have hmb : mb < w.mailboxes.size := (Array.getElem?_eq_some_iff.mp hm).1
  have hent := hb.handlers mb m hm
  refine hb.update rfl hmb (fun j _ => by split <;> rfl) (fun j hj => by split <;> simp [Ghost.remove, Function.update_of_ne hj])
    ?_ (fun e he => hent e (List.mem_of_mem_filter he)) (fun h' => ?_)
  · split <;> exact hb.issued mb m hm
  · rw [Mailbox.contextOf_unregister]
    have hold := hb.removed mb m hm h'
    by_cases hs : (m.unregister h).1 = true
    · -- the handler was registered: its removal is reported now, once
      rw [if_pos hs]
      simp only [Mailbox.unregister, Ghost.remove, Function.update_self, List.count_append]
      obtain ⟨c, hc⟩ := Option.isSome_iff_exists.mp hs
      by_cases hh : h' = h
      · subst hh
        have := hent _ (Mailbox.mem_of_contextOf hc)
        simp only [hc, reduceCtorEq, and_false, if_false] at hold
        simp [hold, this]
      · simp [hh, hold, Ne.symm hh]
    · rw [if_neg hs]
      simp only [Mailbox.unregister]
      by_cases hh : h' = h
      · subst hh
        simp only [Mailbox.unregister, Bool.not_eq_true, Option.isSome_eq_false_iff,
          Option.isNone_iff_eq_none] at hs
        simp [hold, hs]
      · simp [hh, hold]

theorem step {s t : St} (hb : Boxes s) (h : Step s t) : Boxes t := by
  cases h with
  | create x hx => exact hb.still (by rfl) (by rfl) (by rfl)
  | run k => exact hb.still (World.mailboxes_run _ k) (Ghost.issued_take _ _ _) (Ghost.removed_take _ _ _)
  | shutdown _ => exact hb.still (by rfl) (by rfl) (by rfl)
  | call h => exact hb.still h.mailboxes (by rfl) (by rfl)
  | openMailbox => exact hb.openMailbox
  | register mb target hm hr => exact hb.register hm hr
  | unregister mb h hm => exact hb.unregister hm

/-- A handler carries an id its mailbox handed out. -/
theorem lt_of_contextOf {s : St} (hb : Boxes s) {mb h : Nat} {m : Mailbox} {c : ContextId}
    (hm : s.world.mailboxes[mb]? = some m) (hc : m.contextOf h = some c) : 0 < h ∧ h < m.nextId :=
  hb.handlers mb m hm _ (Mailbox.mem_of_contextOf hc)

/-- The ids a mailbox handed out are increasing, the next one is not among them, and its
    handlers carry ids among them. -/
theorem ids {s : St} (hb : Boxes s) {mb : Nat} {m : Mailbox} (hm : s.world.mailboxes[mb]? = some m) :
    (s.ghost.issued mb).Pairwise (· < ·) ∧ m.nextId ∉ s.ghost.issued mb ∧
      ∀ e ∈ m.entries, e.1 ∈ s.ghost.issued mb := by
  obtain ⟨hiss, hpos⟩ := hb.issued mb m hm
  rw [hiss]
  refine ⟨List.pairwise_lt_range' .., fun hin => ?_, fun e he => ?_⟩
  · simp only [List.mem_range'_1] at hin
    omega
  · have := hb.handlers mb m hm e he
    simp only [List.mem_range'_1]
    omega

end Boxes


/-- From `s` to `t` no mailbox is lost, each evolves, and the ids it handed out and the removals
    it reported only grew at the end. -/
def Keeps (s t : St) : Prop :=
  ∀ mb m, s.world.mailboxes[mb]? = some m → ∃ m', t.world.mailboxes[mb]? = some m' ∧ m.Evolves m' ∧
    s.ghost.issued mb <+: t.ghost.issued mb ∧ s.ghost.removed mb <+: t.ghost.removed mb

namespace Keeps

variable {w w' : World} {g g' : Ghost}

theorem refl (s : St) : Keeps s s :=
  fun _ m hm => ⟨m, hm, .refl m, List.prefix_refl _, List.prefix_refl _⟩

theorem trans {s t u : St} (h₁ : Keeps s t) (h₂ : Keeps t u) : Keeps s u := fun mb m hm => by
  obtain ⟨m₁, hm₁, he₁, hi₁, hr₁⟩ := h₁ mb m hm
  obtain ⟨m₂, hm₂, he₂, hi₂, hr₂⟩ := h₂ mb m₁ hm₁
  exact ⟨m₂, hm₂, he₁.trans he₂, hi₁.trans hi₂, hr₁.trans hr₂⟩

/-- A step that leaves the mailboxes and their ghost alone. -/
theorem still (hm : w'.mailboxes = w.mailboxes) (hi : g'.issued = g.issued) (hr : g'.removed = g.removed) :
    Keeps ⟨w, g⟩ ⟨w', g'⟩ :=
  fun _ m h => ⟨m, hm ▸ h, .refl m, by rw [hi], by rw [hr]⟩

theorem openMailbox : Keeps ⟨w, g⟩ ⟨{ w with mailboxes := w.mailboxes.push {} }, g.fresh w.mailboxes.size⟩ :=
  fun mb m hm => by
    have hne : mb ≠ w.mailboxes.size := Nat.ne_of_lt (Array.getElem?_eq_some_iff.mp hm).1
    refine ⟨m, ?_, .refl m, ?_, ?_⟩
    · rw [Array.getElem?_push, if_neg hne]
      exact hm
    · simp [Ghost.fresh, Function.update_of_ne hne]
    · simp [Ghost.fresh, Function.update_of_ne hne]

/-- Mailbox `mb` evolves, and its ghost grows at the end while every other one is kept. -/
theorem update {mb : Nat} {m m' : Mailbox} (hm : w.mailboxes[mb]? = some m) (he : m.Evolves m')
    (hi : g.issued mb <+: g'.issued mb) (hr : g.removed mb <+: g'.removed mb)
    (hi' : ∀ j, j ≠ mb → g'.issued j = g.issued j) (hr' : ∀ j, j ≠ mb → g'.removed j = g.removed j) :
    Keeps ⟨w, g⟩ ⟨w.modifyMailbox mb fun _ => m', g'⟩ := fun j mj hj => by
  by_cases hjm : j = mb
  · subst hjm
    rw [hm] at hj
    cases hj
    refine ⟨m', ?_, he, hi, hr⟩
    simp [World.modifyMailbox, Array.getElem?_modify, hm]
  · refine ⟨mj, ?_, .refl mj, by rw [hi' j hjm], by rw [hr' j hjm]⟩
    simp only [World.modifyMailbox, Array.getElem?_modify, if_neg (Ne.symm hjm)]
    exact hj

theorem step {s t : St} (hb : Boxes s) (h : Step s t) : Keeps s t := by
  cases h with
  | create x hx => exact still (by rfl) (by rfl) (by rfl)
  | run k => exact still (World.mailboxes_run _ k) (Ghost.issued_take _ _ _) (Ghost.removed_take _ _ _)
  | shutdown _ => exact still (by rfl) (by rfl) (by rfl)
  | call h => exact still h.mailboxes (by rfl) (by rfl)
  | openMailbox => exact openMailbox
  | register mb target hm hr =>
    obtain ⟨c, -, -, rfl, rfl⟩ := Mailbox.registerCurrent_ok hr
    refine update hm (.register (fun e he => (hb.handlers mb _ hm e he).2) c) ?_ (List.prefix_refl _)
      (fun j hj => by simp [Ghost.issue, Function.update_of_ne hj]) (fun j _ => rfl)
    simp [Ghost.issue]
  | unregister mb h hm =>
    refine update hm (.unregister _ h) (by split <;> rfl) ?_ (fun j _ => by split <;> rfl) fun j hj => ?_
    · split
      · simp [Ghost.remove]
      · exact List.prefix_refl _
    · split
      · simp [Ghost.remove, Function.update_of_ne hj]
      · rfl

theorem issued {s t : St} (h : Keeps s t) {mb : Nat} {m : Mailbox} (hm : s.world.mailboxes[mb]? = some m) :
    s.ghost.issued mb <+: t.ghost.issued mb := by
  obtain ⟨-, -, -, hi, -⟩ := h mb m hm
  exact hi

theorem removed {s t : St} (h : Keeps s t) {mb : Nat} {m : Mailbox} (hm : s.world.mailboxes[mb]? = some m) :
    s.ghost.removed mb <+: t.ghost.removed mb := by
  obtain ⟨-, -, -, -, hr⟩ := h mb m hm
  exact hr

end Keeps

theorem Reach.boxes {s t : St} (h : Reach s t) (hb : Boxes s) : Boxes t :=
  Reach.induct Boxes (fun hb h => hb.step h) hb h

theorem Reach.keeps {s t : St} (h : Reach s t) (hb : Boxes s) : Keeps s t := by
  induction h with
  | refl => exact .refl _
  | step hr hu ih => exact ih.trans (Keeps.step (hr.boxes hb) hu)

/-- Mailboxes from state `s` to a later state `t`: the ids a mailbox hands out are increasing, so
    none is handed out twice, and its handlers carry them; registering succeeds exactly for a live
    context, and on the caller's current context exactly when it is bound to a live one of this
    runtime; a send runs the handler inline when the sender is bound to its context, queues one
    delivery on that context's worker otherwise, and does nothing when the handler is not
    registered or, from elsewhere, when its context was destroyed; a delivery runs the handler
    only while it is registered, and never once it was unregistered; a handler keeps its
    context until it is removed; and each handler's removal is reported exactly once. -/
structure Delivery (s t : St) : Prop where
  ids : ∀ (mb : Nat) (m : Mailbox), t.world.mailboxes[mb]? = some m → (t.ghost.issued mb).Pairwise (· < ·) ∧
    m.nextId ∉ t.ghost.issued mb ∧ ∀ e ∈ m.entries, e.1 ∈ t.ghost.issued mb
  reused : ∀ (mb : Nat) (m : Mailbox), s.world.mailboxes[mb]? = some m → s.ghost.issued mb <+: t.ghost.issued mb
  register : ∀ (m : Mailbox) (c : ContextId), (∃ p, m.registerIn t.world.registry c = .ok p) ↔ t.world.registry.contains c = true
  registerCurrent : ∀ (m : Mailbox) (th : Thread) (r : RuntimeId),
    (∃ p, m.registerCurrent t.world.registry (th.view r).ctx = .ok p) ↔
      ∃ c, th.binding = some ⟨r, c⟩ ∧ t.world.registry.contains c = true
  send : ∀ (th : Thread) (r : RuntimeId) (mb h : Nat) (msg : String), t.world.send (th.view r) mb h msg = t.world ∨
    (∃ c, (t.world.mailboxes[mb]?).bind (·.contextOf h) = some c ∧ th.binding = some ⟨r, c⟩ ∧
      t.world.send (th.view r) mb h msg = t.world.perform (th.view r) (.deliver mb h msg)) ∨
    (∃ c k, (t.world.mailboxes[mb]?).bind (·.contextOf h) = some c ∧ th.binding ≠ some ⟨r, c⟩ ∧
      t.ghost.pin c = some k ∧
      t.world.send (th.view r) mb h msg = t.world.modifyWorker k (·.push (.run c (.work (.deliver mb h msg)))))
  unregistered : ∀ (th : Thread) (r : RuntimeId) (mb h : Nat) (msg : String), (t.world.mailboxes[mb]?).bind (·.contextOf h) = none →
    t.world.send (th.view r) mb h msg = t.world
  destroyed : ∀ (th : Thread) (r : RuntimeId) (mb h : Nat) (msg : String) (c : ContextId), (t.world.mailboxes[mb]?).bind (·.contextOf h) = some c →
    th.binding ≠ some ⟨r, c⟩ → t.world.registry.contains c = false → t.world.send (th.view r) mb h msg = t.world
  deliver : ∀ (mb : Nat) (m : Mailbox) (x : Exec) (h : Nat) (msg : String), t.world.mailboxes[mb]? = some m →
    t.world.perform x (.deliver mb h msg) = if (m.contextOf h).isSome then t.world.note x (.message mb h msg) else t.world
  late : ∀ (mb : Nat) (m : Mailbox) (h : Nat), s.world.mailboxes[mb]? = some m → h < m.nextId → m.contextOf h = none →
    ∀ x msg, t.world.perform x (.deliver mb h msg) = t.world
  handler : ∀ (mb : Nat) (m : Mailbox) (h : Nat) (c : ContextId), s.world.mailboxes[mb]? = some m → m.contextOf h = some c →
    ∃ m' : Mailbox, t.world.mailboxes[mb]? = some m' ∧ (m'.contextOf h = some c ∨ m'.contextOf h = none)
  once : ∀ (mb : Nat) (m : Mailbox), t.world.mailboxes[mb]? = some m → ∀ h,
    (t.ghost.removed mb).count h = if 0 < h ∧ h < m.nextId ∧ m.contextOf h = none then 1 else 0
  removed : ∀ (mb : Nat) (m : Mailbox), s.world.mailboxes[mb]? = some m → s.ghost.removed mb <+: t.ghost.removed mb

end RuntimeSystem

end Affinity
