import Affinity.Net.Address
import Affinity.Text.Quoted
/-!
Endpoints: where a connection goes.

An endpoint is a host, a port and whether the stream is TLS. Its authority writes the host in
brackets when the host contains a colon and does not already start with a bracket, then a
colon and the port; its display form is `tcp://` or `tls://` followed by the authority. An
endpoint for a peer takes the written form of the peer's IP address as its host, so an IPv6
scope is dropped and an IPv4-mapped address keeps its dotted tail.
-/

namespace Affinity

/-- A remote endpoint. -/
structure Endpoint where
  host : String
  port : Nat
  tls : Bool := false
  deriving DecidableEq, Repr

namespace Endpoint

/-- The endpoint of a peer's socket address. -/
def ofPeer (a : Net.SocketAddr) (tls : Bool) : Endpoint :=
  { host := a.ip.render, port := a.port, tls }

/-- `host:port`, with an IPv6 host in brackets. -/
def authority (e : Endpoint) : String :=
  if e.host.contains ':' && !e.host.startsWith "[" then
    "[" ++ e.host ++ "]:" ++ toString e.port
  else e.host ++ ":" ++ toString e.port

/-- The display form, `tcp://authority` or `tls://authority`. -/
def display (e : Endpoint) : String :=
  (if e.tls then "tls://" else "tcp://") ++ e.authority

/-- The debug text of an endpoint. -/
def debug (e : Endpoint) : String :=
  "Endpoint \x7b host: " ++ Text.quote e.host ++ ", port: " ++ toString e.port ++ ", tls: " ++
    toString e.tls ++ " \x7d"

end Endpoint

end Affinity
