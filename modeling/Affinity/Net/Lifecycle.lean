/-!
The lifecycle of a connection.

A connection starts `connecting`, becomes `active` when its byte stream is up, `closing` when a
close was asked for, and `closed` when its driver has stopped. It is open while connecting or
active. The states are ordered in that sequence, and a connection only ever moves forward
(`ConnectionState.rank`).
-/

namespace Affinity

/-- Where a connection is in its life. -/
inductive ConnectionState where
  | connecting
  | active
  | closing
  | closed
  deriving DecidableEq, Repr

namespace ConnectionState

/-- The lowercase name of a state. -/
def display : ConnectionState → String
  | .connecting => "connecting"
  | .active => "active"
  | .closing => "closing"
  | .closed => "closed"

/-- Connecting or active connections accept writes. -/
def isOpen : ConnectionState → Bool
  | .connecting | .active => true
  | _ => false

/-- Whether the connection has finished closing. -/
def isClosed (s : ConnectionState) : Bool := s == .closed

/-- The position of a state in the lifecycle. -/
def rank : ConnectionState → Nat
  | .connecting => 0
  | .active => 1
  | .closing => 2
  | .closed => 3

theorem isOpen_iff_rank_le (s : ConnectionState) : s.isOpen = true ↔ s.rank ≤ 1 := by
  cases s <;> decide

end ConnectionState

end Affinity
