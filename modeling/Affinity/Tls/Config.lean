import Affinity.Error
import Affinity.Files
import Affinity.Text.Quoted
/-!
TLS settings for clients and servers, and the material they load.

* `TlsConfig.validateClient`: a client certificate and key come together, and the client
  trusts either every server or a trust file.
* `TlsConfig.validateServer`: a server has a certificate and a key, and asking clients for
  certificates needs a trust file.
* `TlsConfig.clientMaterial` and `TlsConfig.serverMaterial` validate, then load: the trust
  file (each certificate must parse), then the certificate chain, then the key, then check
  that the key is well formed and belongs to the first certificate of the chain.

Loading a certificate file fails when the path names nothing, when the file cannot be read
(a directory) or holds an unreadable section, and when it holds no certificate. Loading a
key fails likewise, and when the file holds no private key.
-/

namespace Affinity

/-- Whether a server asks clients for certificates. -/
inductive ClientAuth where
  | none
  | request
  | required
  deriving DecidableEq, Repr

/-- The debug name of a client authentication mode. -/
def ClientAuth.debug : ClientAuth → String
  | .none => "None"
  | .request => "Request"
  | .required => "Required"

/-- TLS settings. -/
structure TlsConfig where
  enabled : Bool := false
  certPath : Option String := none
  keyPath : Option String := none
  trustPath : Option String := none
  trustAll : Bool := false
  clientAuth : ClientAuth := .none
  deriving DecidableEq, Repr

/-- What a client loaded: which key pairs it trusts and its own certificate's pair. -/
structure ClientMaterial where
  trustAll : Bool
  roots : List Nat
  identity : Option Nat
  deriving DecidableEq, Repr

/-- What a server loaded: its certificate's pair and the roots that verify clients. -/
structure ServerMaterial where
  pair : Nat
  clientRoots : Option (List Nat)
  deriving DecidableEq, Repr

namespace TlsConfig

/-- Checks the settings a client needs. -/
def validateClient (c : TlsConfig) : Except Error Unit :=
  if c.certPath.isSome != c.keyPath.isSome then
    .error (.config "client certificate and key must be set together")
  else if !c.trustAll && c.trustPath.isNone then
    .error (.config "TLS client needs trust_path or trust_all")
  else .ok ()

/-- Checks the settings a server needs. -/
def validateServer (c : TlsConfig) : Except Error Unit :=
  if c.certPath.isNone || c.keyPath.isNone then
    .error (.config "TLS server needs cert_path and key_path")
  else if c.clientAuth != .none && c.trustPath.isNone then
    .error (.config "client authentication needs trust_path")
  else .ok ()

/-- The certificates of a file, at least one. -/
def loadCertificates (fs : FileStore) (path : String) : Except Error (List Pem.Der) :=
  match fs.lookup path with
  | .missing => .error (.tls ("failed to open certificate file " ++ path))
  | .directory => .error (.tls "failed to parse certificates")
  | .file data =>
    match Pem.certificates data.sections with
    | none => .error (.tls "failed to parse certificates")
    | some [] => .error (.tls ("no certificates in " ++ path))
    | some chain => .ok chain

/-- The first private key of a file. -/
def loadKey (fs : FileStore) (path : String) : Except Error Pem.Der :=
  match fs.lookup path with
  | .missing => .error (.tls ("failed to open key file " ++ path))
  | .directory => .error (.tls "failed to read private key")
  | .file data =>
    match Pem.firstKey data.sections with
    | none => .error (.tls "failed to read private key")
    | some none => .error (.tls ("no private key in " ++ path))
    | some (some k) => .ok k

/-- The key pairs of a trust file; every certificate in it must parse. -/
def loadRoots (fs : FileStore) (path : String) : Except Error (List Nat) := do
  let chain ← loadCertificates fs path
  chain.mapM fun
    | .wellFormed p => pure p
    | .malformed => throw (.tls "invalid trusted certificate")

/-- The key pair shared by a chain's first certificate and a key, if they agree. -/
def pairOf : List Pem.Der → Pem.Der → Option Nat
  | .wellFormed p :: _, .wellFormed q => if p = q then some p else none
  | _, _ => none

/-- Validates and loads what a client needs. -/
def clientMaterial (c : TlsConfig) (fs : FileStore) : Except Error ClientMaterial := do
  c.validateClient
  let roots ← if c.trustAll then pure [] else
    match c.trustPath with
    | some p => loadRoots fs p
    | none => throw (.config "trust_path is not set")
  let identity ← match c.certPath, c.keyPath with
    | some cert, some key => do
      let chain ← loadCertificates fs cert
      let k ← loadKey fs key
      match pairOf chain k with
      | some p => pure (some p)
      | none => throw (.tls "invalid client certificate")
    | _, _ => pure none
  pure { trustAll := c.trustAll, roots, identity }

/-- Validates and loads what a server needs. -/
def serverMaterial (c : TlsConfig) (fs : FileStore) : Except Error ServerMaterial := do
  c.validateServer
  let clientRoots ← if c.clientAuth = .none then pure none else
    match c.trustPath with
    | some p => some <$> loadRoots fs p
    | none => throw (.config "trust_path is not set")
  match c.certPath, c.keyPath with
  | some cert, some key => do
    let chain ← loadCertificates fs cert
    let k ← loadKey fs key
    match pairOf chain k with
    | some p => pure { pair := p, clientRoots }
    | none => throw (.tls "invalid server certificate")
  | _, _ => throw (.config "TLS server needs cert_path and key_path")

/-- The debug form of an optional path. -/
def pathDebug : Option String → String
  | some p => "Some(" ++ Text.quote p ++ ")"
  | none => "None"

/-- The debug text of the settings. -/
def debug (c : TlsConfig) : String :=
  "TlsConfig \x7b enabled: " ++ toString c.enabled ++ ", cert_path: " ++ pathDebug c.certPath ++
    ", key_path: " ++ pathDebug c.keyPath ++ ", trust_path: " ++ pathDebug c.trustPath ++
    ", trust_all: " ++ toString c.trustAll ++ ", client_auth: " ++ c.clientAuth.debug ++ " \x7d"

end TlsConfig

end Affinity
