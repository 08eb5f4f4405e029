import Affinity.Error
import Affinity.Text.Decimal
/-!
Listening addresses given as text.

A listener is bound to `host:port`, the text split at its last colon. A text without a colon is
not a socket address, and a port that is not a 16-bit number (an optional plus sign and decimal
digits) is refused before the host is looked at. Port 0 asks the system to choose one.

`requestedPort` gives the port an address asks for, or the error that binding it reports.
-/

namespace Affinity.Net

/-- The error of an address whose port is not a 16-bit number. -/
def invalidPort : Error := .io { kind := .invalidInput, message := some "invalid port value" }

/-- The error of a text that is not a socket address. -/
def invalidSocketAddress : Error := .io { kind := .invalidInput, message := some "invalid socket address" }

/-- The text after the last colon. -/
def portText (addr : String) : String :=
  String.ofList (addr.toList.reverse.takeWhile (· ≠ ':')).reverse

/-- The port a listening address asks for. -/
def requestedPort (addr : String) : Except Error Nat :=
  if !addr.toList.contains ':' then .error invalidSocketAddress
  else match Text.readWord (portText addr) with
    | some p => if p < 65536 then .ok p else .error invalidPort
    | none => .error invalidPort

/-- An address without a colon is refused as no socket address. -/
theorem requestedPort_of_no_colon (addr : String) (h : ':' ∉ addr.toList) :
    requestedPort addr = .error invalidSocketAddress := by
  simp [requestedPort, h]

end Affinity.Net
