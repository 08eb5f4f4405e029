/-!
Identities of contexts, workers and mailbox handlers.

A context id is a positive number written `ctx-n`; its debug form is `ContextId(n)`. Worker
ids are indexes written `worker-i`. Handler ids number the handlers of one mailbox and are
written `handler-n`, with debug form `HandlerId(n)`.
-/

namespace Affinity

/-- An execution context: a logical thread of work pinned to one worker. -/
structure ContextId where
  val : Nat
  deriving DecidableEq, Repr, Inhabited

namespace ContextId

/-- The display form `ctx-n`. -/
def display (c : ContextId) : String := "ctx-" ++ toString c.val

/-- The debug form `ContextId(n)`. -/
def debug (c : ContextId) : String := "ContextId(" ++ toString c.val ++ ")"

end ContextId

/-- The index of a worker within its pool. -/
structure WorkerId where
  index : Nat
  deriving DecidableEq, Repr, Inhabited

/-- The display form `worker-i`. -/
def WorkerId.display (w : WorkerId) : String := "worker-" ++ toString w.index

/-- A handler registered in a mailbox, unique within that mailbox. -/
structure HandlerId where
  val : Nat
  deriving DecidableEq, Repr, Inhabited

namespace HandlerId

/-- The display form `handler-n`. -/
def display (h : HandlerId) : String := "handler-" ++ toString h.val

/-- The debug form `HandlerId(n)`. -/
def debug (h : HandlerId) : String := "HandlerId(" ++ toString h.val ++ ")"

end HandlerId

end Affinity
