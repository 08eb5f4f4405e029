import Affinity.Net.Endpoint
import Affinity.Text.Blank
import Affinity.Text.Duration
import Affinity.Tls.Config
/-!
Client and pool settings.

* `PoolConfig`: how many connections a pool may hold (at least one) and whether released
  connections are kept for reuse.
* `ClientConfig`: host, port, TLS settings, pool size and reuse, connect timeout and the
  no-delay flag. `ClientConfig.validate` refuses a blank host, then a pool size of zero, then,
  when TLS is on, client TLS settings that `TlsConfig.validateClient` refuses.
* `TcpSettings`: what a TCP transport was built with; its debug text names whether TLS
  material is present, the timeout and the no-delay flag.
-/

namespace Affinity

/-- Pool sizing and reuse. -/
structure PoolConfig where
  maxSize : Nat := 1
  keepAlive : Bool := true
  deriving DecidableEq, Repr

namespace PoolConfig

/-- A pool holds at least one connection. -/
def validate (c : PoolConfig) : Except Error Unit :=
  if c.maxSize = 0 then .error (.config "max_pool_size must be at least 1") else .ok ()

/-- The debug text of pool settings. -/
def debug (c : PoolConfig) : String :=
  "PoolConfig \x7b max_size: " ++ toString c.maxSize ++ ", keep_alive: " ++ toString c.keepAlive ++
    " \x7d"

end PoolConfig

/-- The debug form of an optional duration. -/
def durationDebug : Option Text.Duration → String
  | some d => "Some(" ++ d.render ++ ")"
  | none => "None"

/-- Client settings. -/
structure ClientConfig where
  host : String := "localhost"
  port : Nat := 80
  tls : TlsConfig := {}
  maxPoolSize : Nat := 1
  keepAlive : Bool := true
  connectTimeout : Option Text.Duration := some (Text.Duration.ofMillis 10000)
  tcpNodelay : Bool := true
  deriving DecidableEq, Repr

namespace ClientConfig

/-- The pool settings of a client. -/
def poolConfig (c : ClientConfig) : PoolConfig := { maxSize := c.maxPoolSize, keepAlive := c.keepAlive }

/-- The endpoint a client connects to. -/
def endpoint (c : ClientConfig) : Endpoint := { host := c.host, port := c.port, tls := c.tls.enabled }

/-- Checks the settings. -/
def validate (c : ClientConfig) : Except Error Unit := do
  if Text.trim c.host = "" then throw (.config "host must not be empty")
  c.poolConfig.validate
  if c.tls.enabled then c.tls.validateClient

/-- The debug text of client settings. -/
def debug (c : ClientConfig) : String :=
  "ClientConfig \x7b host: " ++ Text.quote c.host ++ ", port: " ++ toString c.port ++ ", tls: " ++
    c.tls.debug ++ ", max_pool_size: " ++ toString c.maxPoolSize ++ ", keep_alive: " ++
    toString c.keepAlive ++ ", connect_timeout: " ++ durationDebug c.connectTimeout ++
    ", tcp_nodelay: " ++ toString c.tcpNodelay ++ " \x7d"

end ClientConfig

/-- What a TCP transport was built with. -/
structure TcpSettings where
  tls : Option ClientMaterial := none
  connectTimeout : Option Text.Duration := none
  nodelay : Bool := true
  deriving DecidableEq, Repr

/-- The debug text of a TCP transport. -/
def TcpSettings.debug (t : TcpSettings) : String :=
  "TcpTransport \x7b tls: " ++ toString t.tls.isSome ++ ", connect_timeout: " ++
    durationDebug t.connectTimeout ++ ", nodelay: " ++ toString t.nodelay ++ " \x7d"

end Affinity
