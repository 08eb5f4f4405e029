import Affinity.Context.Id
import Affinity.Text.Quoted
/-!
Errors of the library.

`Error` names the cause of a failure; `Error.message` is its one-line text. Two predicates
classify causes: `isContractViolation` (work ran without the context it needed, or on the
wrong one) and `isTransport` (the byte stream or its setup failed). Input/output failures carry
an `IoError`, whose text is its message, or the description of its kind when it has none, and
the system's error number when the operating system reported it. `Panicking` is a result that
may instead be a panic, which stops the program.
`Error.debug` is the structural form of an error, as a program prints it when it stops with one.
-/

namespace Affinity

/-- Kinds of input/output failure. -/
inductive IoKind where
  | notFound
  | connectionRefused
  | brokenPipe
  | timedOut
  | invalidInput
  | wouldBlock
  | other
  deriving DecidableEq, Repr

/-- The description of a kind of input/output failure. -/
def IoKind.description : IoKind → String
  | .notFound => "entity not found"
  | .connectionRefused => "connection refused"
  | .brokenPipe => "broken pipe"
  | .timedOut => "timed out"
  | .invalidInput => "invalid input parameter"
  | .wouldBlock => "operation would block"
  | .other => "other error"

/-- The name of a kind, as debug texts write it. -/
def IoKind.name : IoKind → String
  | .notFound => "NotFound"
  | .connectionRefused => "ConnectionRefused"
  | .brokenPipe => "BrokenPipe"
  | .timedOut => "TimedOut"
  | .invalidInput => "InvalidInput"
  | .wouldBlock => "WouldBlock"
  | .other => "Other"

/-- An input/output failure: a kind and, optionally, a message; a failure the operating system
    reported carries its error number, and then its message is the system's description. -/
structure IoError where
  kind : IoKind
  message : Option String := none
  code : Option Nat := none
  deriving DecidableEq, Repr

/-- The text of an input/output failure; the system's failures add their error number. -/
def IoError.text (e : IoError) : String :=
  match e.code with
  | some n => e.message.getD e.kind.description ++ " (os error " ++ toString n ++ ")"
  | none => e.message.getD e.kind.description

/-- The structural form of an input/output failure: its kind, and its message if it has one;
    the system's failures show their error number, kind and description. -/
def IoError.debug (e : IoError) : String :=
  match e.code, e.message with
  | some n, m =>
    "Os \x7b code: " ++ toString n ++ ", kind: " ++ e.kind.name ++ ", message: " ++
      Text.quote (m.getD e.kind.description) ++ " \x7d"
  | none, some m => "Error \x7b kind: " ++ e.kind.name ++ ", message: " ++ Text.quote m ++ " \x7d"
  | none, none => "Kind(" ++ e.kind.name ++ ")"

/-- A result that is either a value or a panic stopping the program, with its message. -/
abbrev Panicking (α : Type) : Type := Except String α


/-- Causes of failure. -/
inductive Error where
  /-- An operation that needs a current context ran without one. -/
  | unboundExecution (operation : String)
  /-- Work ran on a context other than the one it belongs to. -/
  | affinityViolation (expected : ContextId) (actual : Option ContextId)
  /-- A context that does not exist (any more). -/
  | contextNotFound (ctx : ContextId)
  /-- The workers have stopped. -/
  | runtimeShutdown
  /-- A connection could not be admitted. -/
  | admission (detail : String)
  /-- The connection is closing or closed. -/
  | connectionClosed
  /-- The pool is closed. -/
  | poolClosed
  /-- A setting is invalid. -/
  | config (detail : String)
  /-- TLS material is missing or invalid. -/
  | tls (detail : String)
  /-- An input/output failure. -/
  | io (e : IoError)
  deriving DecidableEq, Repr

namespace Error

/-- The text of an error. -/
def message : Error → String
  | .unboundExecution op => "Unbound execution: " ++ op ++ " requires a current context"
  | .affinityViolation e (some a) =>
    "Affinity violation: expected " ++ e.display ++ ", running on " ++ a.display
  | .affinityViolation e none => "Affinity violation: expected " ++ e.display ++ ", running on no context"
  | .contextNotFound c => "Context not found: " ++ c.display
  | .runtimeShutdown => "Runtime has been shut down"
  | .admission d => "Connection admission failed: " ++ d
  | .connectionClosed => "Connection closed"
  | .poolClosed => "Connection pool closed"
  | .config d => "Configuration error: " ++ d
  | .tls d => "TLS error: " ++ d
  | .io e => "IO error: " ++ e.text

/-- The structural form of an error: its cause and fields, texts quoted. -/
def debug : Error → String
  | .unboundExecution op => "UnboundExecution(" ++ Text.quote op ++ ")"
  | .affinityViolation e a =>
    "AffinityViolation \x7b expected: " ++ e.debug ++ ", actual: " ++
      (match a with
        | some c => "Some(" ++ c.debug ++ ")"
        | none => "None") ++ " \x7d"
  | .contextNotFound c => "ContextNotFound(" ++ c.debug ++ ")"
  | .runtimeShutdown => "RuntimeShutdown"
  | .admission d => "Admission(" ++ Text.quote d ++ ")"
  | .connectionClosed => "ConnectionClosed"
  | .poolClosed => "PoolClosed"
  | .config d => "Config(" ++ Text.quote d ++ ")"
  | .tls d => "Tls(" ++ Text.quote d ++ ")"
  | .io e => "Io(" ++ e.debug ++ ")"

/-- Work ran without its context or on the wrong one. -/
def isContractViolation : Error → Bool
  | .unboundExecution _ | .affinityViolation _ _ => true
  | _ => false

/-- The byte stream or its setup failed. -/
def isTransport : Error → Bool
  | .admission _ | .connectionClosed | .tls _ | .io _ => true
  | _ => false

end Error

end Affinity
