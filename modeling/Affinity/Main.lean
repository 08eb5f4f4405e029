import Affinity.Fanout
/-!
The fan-out server's command line: `fanout [ADDRESS]`, listening on `127.0.0.1:7000` when no
address is given.

It reads the `STRAND_*` and `RUST_LOG` variables of its environment, starts as `Fanout.start`
says, and writes the log records its filter lets through to standard error, one per line: as
JSON objects when the log format is `json`, else as `LEVEL target: message`. If it could not get
ready it writes its failure lines and exits with status 1 after an error, 101 after a panic.
Otherwise it serves until its input ends, which stands for the interrupt that stops it, and
exits with status 0.
-/

namespace Affinity.Fanout

/-- The variables the program reads. -/
def environmentKeys : List String :=
  ["STRAND_LOG_LEVEL", "STRAND_LOG_FORMAT", "STRAND_WORKERS", "STRAND_THREAD_NAME",
   "STRAND_STACK_SIZE", "RUST_LOG"]

/-- A character inside a JSON string. -/
def jsonChar (c : Char) : String :=
  if c = '"' then "\\\""
  else if c = '\\' then "\\\\"
  else if c = '\n' then "\\n"
  else if c.toNat < 0x20 then
    let ds := Nat.toDigits 16 c.toNat
    "\\u" ++ String.ofList (List.replicate (4 - ds.length) '0' ++ ds)
  else c.toString

/-- A JSON string. -/
def jsonString (s : String) : String := "\"" ++ String.join (s.toList.map jsonChar) ++ "\""

/-- The line of a record in a format. -/
def Record.line (format : LogFormat) (r : Record) : String :=
  let level := r.level.word.toUpper
  match format with
  | .json =>
    "\x7b\"level\":" ++ jsonString level ++ ",\"fields\":\x7b\"message\":" ++ jsonString r.message ++
      "\x7d,\"target\":" ++ jsonString r.target ++ "\x7d"
  | _ => level ++ " " ++ r.target ++ ": " ++ r.message

end Affinity.Fanout

open Affinity

/-- Reads lines until the input ends. -/
partial def waitForEnd (input : IO.FS.Stream) : IO Unit := do
  let line ← input.getLine
  if line.isEmpty then return
  waitForEnd input

def main (args : List String) : IO UInt32 := do
  let addr := args.headD "127.0.0.1:7000"
  let mut env : List (String × String) := []
  for k in Fanout.environmentKeys do
    if let some v ← IO.getEnv k then env := env ++ [(k, v)]
  let lookup : String → Option String := fun k => (env.find? (·.1 == k)).map (·.2)
  let s := Fanout.start lookup addr 1
  let err ← IO.getStderr
  for r in s.visible do
    err.putStrLn (r.line (s.format.getD .compact))
  match s.outcome with
  | .ready _ =>
    waitForEnd (← IO.getStdin)
    return 0
  | _ =>
    for line in s.failureLines do
      err.putStrLn line
    return (UInt32.ofNat s.exitCode)
