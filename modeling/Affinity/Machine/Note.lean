import Affinity.Context.Id
import Affinity.Error
/-!
Notes: what the recording callbacks of a scenario write down.

Each callback that runs during a scenario leaves one `Note`; an `Event` is a note with the
context that was current when the callback ran (none off the workers). `Signal` names the four
connection callbacks that carry no data.
-/

namespace Affinity

/-- The connection callbacks without a payload. -/
inductive Signal where
  | drain
  | finish
  | closed
  deriving DecidableEq, Repr

/-- What a recording callback wrote. -/
inductive Note where
  /-- Posted or inline work ran. -/
  | run (tag : String)
  /-- A spawned task was first polled. -/
  | spawned (tag : String)
  /-- A spawned task resumed after yielding. -/
  | resumed (tag : String)
  /-- A marker written by the script itself. -/
  | mark (tag : String)
  /-- A mailbox handler received a message. -/
  | message (mailbox handler : Nat) (msg : String)
  /-- A pool reported an error. -/
  | poolError (pool : Nat) (err : Error)
  /-- An acquire request received a connection. -/
  | acquired (pool conn : Nat)
  /-- An acquire request failed. -/
  | acquireFailed (pool : Nat) (err : Error)
  /-- A write's completion callback ran. -/
  | writeDone (tag : String)
  /-- A connection delivered bytes. -/
  | data (conn : Nat) (tag : String) (bytes : ByteArray)
  /-- A connection callback without payload ran. -/
  | signal (kind : Signal) (conn : Nat) (tag : String)
  /-- A connection reported an error. -/
  | exception (conn : Nat) (tag : String) (err : Error)
  /-- A server handed over an accepted connection. -/
  | serverConn (conn : Nat)
  /-- A server finished closing. -/
  | serverClosed (tag : String)

/-- A note and the context current when it was written. -/
structure Event where
  note : Note
  ctx : Option ContextId

end Affinity
