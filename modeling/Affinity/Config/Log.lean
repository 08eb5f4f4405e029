import Affinity.Config.LogFilter
import Affinity.Error
import Affinity.Text.Blank
import Affinity.Text.Quoted
/-!
Logging settings and the one-time installation of the global logger.

* Level and format words are trimmed and lowercased (ASCII only) before matching; `warning`
  means `warn`, and `plain` and `text` mean `compact`. An unknown word is quoted, lowercased,
  in the error.
* `LogConfig.ofLookup` reads `STRAND_LOG_LEVEL`, then `STRAND_LOG_FORMAT`.
* `LogConfig.install` reads an explicit filter first, then refuses when a logger is already
  installed. Without an explicit filter, a `RUST_LOG` value that is a filter is used, and the
  level otherwise (`LogConfig.directives`), so that case never fails on the filter. Reading a
  filter can panic (see `Filter.parse`), which stops the program.
* `LogConfig.installFresh` is what a fresh process sees: the test logger, if asked for, takes
  the one installation a process has.
-/

namespace Affinity

/-- Severity levels. -/
inductive LogLevel where
  | trace
  | debug
  | info
  | warn
  | error
  deriving DecidableEq, Repr

/-- Output formats. -/
inductive LogFormat where
  | json
  | pretty
  | compact
  deriving DecidableEq, Repr

/-- Where lines go. -/
inductive LogOutput where
  | stdout
  | stderr
  deriving DecidableEq, Repr

/-- Lowercases the ASCII letters of a trimmed text. -/
def logWord (s : String) : String :=
  String.ofList ((Text.trim s).toList.map Char.toLower)

/-- Reads a level word. -/
def LogLevel.parse (s : String) : Except Error LogLevel :=
  match logWord s with
  | "trace" => .ok .trace
  | "debug" => .ok .debug
  | "info" => .ok .info
  | "warn" | "warning" => .ok .warn
  | "error" => .ok .error
  | w => .error (.config ("unknown log level " ++ Text.quote w))

/-- How verbose a level is: 1 for errors up to 5 for tracing. -/
def LogLevel.rank : LogLevel → Nat
  | .error => 1
  | .warn => 2
  | .info => 3
  | .debug => 4
  | .trace => 5

/-- The word of a level. -/
def LogLevel.word : LogLevel → String
  | .trace => "trace"
  | .debug => "debug"
  | .info => "info"
  | .warn => "warn"
  | .error => "error"

/-- Reads a format word. -/
def LogFormat.parse (s : String) : Except Error LogFormat :=
  match logWord s with
  | "json" => .ok .json
  | "pretty" => .ok .pretty
  | "compact" | "plain" | "text" => .ok .compact
  | w => .error (.config ("unknown log format " ++ Text.quote w))

/-- The word of a format. -/
def LogFormat.word : LogFormat → String
  | .json => "json"
  | .pretty => "pretty"
  | .compact => "compact"

/-- The word of an output. -/
def LogOutput.word : LogOutput → String
  | .stdout => "stdout"
  | .stderr => "stderr"

/-- Logging settings. -/
structure LogConfig where
  level : LogLevel := .info
  format : LogFormat := .compact
  output : LogOutput := .stderr
  workerNames : Bool := true
  filter : Option String := none
  deriving DecidableEq, Repr

/-- Whether a global logger is installed. -/
structure LogState where
  installed : Bool := false
  deriving DecidableEq, Repr

namespace LogConfig

/-- Settings read through a lookup of named variables. -/
def ofLookup (lookup : String → Option String) : Except Error LogConfig := do
  let level ← match lookup "STRAND_LOG_LEVEL" with
    | some v => LogLevel.parse v
    | none => pure .info
  let format ← match lookup "STRAND_LOG_FORMAT" with
    | some v => LogFormat.parse v
    | none => pure .compact
  pure { level, format }

/-- The directives read from a `RUST_LOG` value when it is a filter, else those of `fallback`.
    Reading may panic. -/
def environmentDirectives (fallback : String) (environmentFilter : Option String) :
    Panicking (List Filter.Directive) :=
  let fallbackDirectives := match Filter.parse fallback with
    | .ok ds => ds
    | .error _ => []
  match environmentFilter with
  | none => .ok fallbackDirectives
  | some r =>
    match Filter.parse r with
    | .ok ds => .ok ds
    | .error .invalid => .ok fallbackDirectives
    | .error (.panic m) => .error m

/-- The directives of the logger installed with these settings, given the `RUST_LOG` value: those
    of the explicit filter, which must be a filter; else those of `RUST_LOG` when it is one; else
    the level's. Reading a filter may panic. -/
def directives (c : LogConfig) (environmentFilter : Option String) :
    Panicking (Except Error (List Filter.Directive)) :=
  match c.filter with
  | some f =>
    match Filter.parse f with
    | .ok ds => .ok (.ok ds)
    | .error .invalid => .ok (.error (.config ("invalid log filter " ++ Text.quote f)))
    | .error (.panic m) => .error m
  | none => Except.ok <$> environmentDirectives c.level.word environmentFilter

/-- Installs the global logger: the filter is read first, then a second installation is
    refused. -/
def install (c : LogConfig) (environmentFilter : Option String) (st : LogState) :
    Panicking (Except Error Unit × LogState) := do
  match ← c.directives environmentFilter with
  | .error e => pure (.error e, st)
  | .ok _ =>
    if st.installed then pure (.error (.config "logging already initialized"), st)
    else pure (.ok (), { installed := true })

end LogConfig

/-- The test logger: it reads `RUST_LOG` (falling back to warnings), which may panic, and is
    installed if none is, never failing otherwise. -/
def LogState.installForTests (environmentFilter : Option String) (_ : LogState) :
    Panicking LogState := do
  let _ ← LogConfig.environmentDirectives "warn" environmentFilter
  pure { installed := true }

/-- Installations in a fresh process with the `RUST_LOG` value: optionally the test logger, then
    `c`, then optionally the default settings; the results of the installations of settings. -/
def LogConfig.installFresh (c : LogConfig) (environmentFilter : Option String)
    (testsFirst again : Bool) : Panicking (Except Error Unit × Option (Except Error Unit)) := do
  let st ← if testsFirst then LogState.installForTests environmentFilter {} else pure {}
  let (first, st) ← c.install environmentFilter st
  if again then
    let (second, _) ← ({} : LogConfig).install environmentFilter st
    pure (first, some second)
  else pure (first, none)

end Affinity
