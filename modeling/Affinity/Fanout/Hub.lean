import Affinity.Machine.Parts
/-!
The fan-out hub: the subscribers of the fan-out server.

Each connection that joins registers a mailbox handler on its own context and is appended to
the subscriber list; a connection that leaves unregisters its handler and is dropped from the
list. A chunk read from any connection is sent to every subscriber in the list as it stands when
the chunk is read, and each delivery runs on the subscriber's context, where its handler writes
the chunk to its connection.

* `Hub.join`, `Hub.leave`: the two changes of membership.
* `Hub.deliveries`: the handlers a chunk reaches, with their contexts.
* `Hub.Consistent`: the list holds each handler once and exactly the registered handlers.
-/

namespace Affinity.Fanout

/-- The fan-out hub. -/
structure Hub where
  mailbox : Mailbox := {}
  /-- Handler ids in join order. -/
  subscribers : List Nat := []

namespace Hub

/-- A connection on `ctx` joins: its handler is registered there and appended to the list. -/
def join (h : Hub) (ctx : ContextId) : Nat × Hub :=
  let (id, m) := h.mailbox.register ctx
  (id, { mailbox := m, subscribers := h.subscribers ++ [id] })

/-- A connection leaves: its handler is unregistered and dropped from the list. -/
def leave (h : Hub) (id : Nat) : Hub :=
  { mailbox := (h.mailbox.unregister id).2, subscribers := h.subscribers.filter (· != id) }

/-- The handlers a chunk reaches, in list order, with the contexts they run on. -/
def deliveries (h : Hub) : List (Nat × ContextId) :=
  h.subscribers.filterMap fun id => (h.mailbox.contextOf id).map (id, ·)

/-- The list holds each handler once and exactly the handlers registered in the mailbox. -/
def Consistent (h : Hub) : Prop :=
  h.subscribers.Nodup ∧ h.subscribers = h.mailbox.entries.map (·.1)

/-- Joining appends the new handler to the list. -/
theorem subscribers_join (h : Hub) (ctx : ContextId) :
    (h.join ctx).2.subscribers = h.subscribers ++ [(h.join ctx).1] := rfl

/-- After leaving, a handler is no longer in the list. -/
theorem not_mem_leave (h : Hub) (id : Nat) : id ∉ (h.leave id).subscribers := by
  simp [leave]

end Hub

end Affinity.Fanout
