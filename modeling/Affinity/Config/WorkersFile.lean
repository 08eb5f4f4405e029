import Affinity.Config.Toml
import Affinity.Config.Workers
import Affinity.Files
/-!
Worker settings from TOML text and from files.

`WorkerConfig.ofToml` reads a flat document whose keys are `workers`, `thread_name` and
`stack_size`; the counts are integers that fit an unsigned word, the name is a string. A key
given twice, any other key, a value of the wrong kind and any syntax error all give the one
error `TOML parse error`. Validation follows reading. `WorkerConfig.ofFile` reads a file's text
first; a path that names no file gives `cannot read <path>`.
-/

namespace Affinity

namespace WorkerConfig

/-- The error of every document that cannot be read as settings. -/
def tomlError : Error := .config "TOML parse error"

/-- A count: an integer from zero to below 2^64. -/
def tomlCount : Toml.Scalar → Except Error Nat
  | .integer v => if 0 ≤ v && v < Int.pow 2 64 then .ok v.toNat else .error tomlError
  | .text _ => .error tomlError

/-- Applies the pairs of a document to the defaults, refusing repeats and unknown keys. -/
def applyPairs : List (String × Toml.Scalar) → List String → WorkerConfig → Except Error WorkerConfig
  | [], _, c => .ok c
  | (k, v) :: rest, seen, c =>
    if k ∈ seen then .error tomlError
    else if k = "workers" then do
      let n ← tomlCount v
      applyPairs rest (k :: seen) { c with workers := n }
    else if k = "thread_name" then
      match v with
      | .text s => applyPairs rest (k :: seen) { c with threadName := s }
      | .integer _ => .error tomlError
    else if k = "stack_size" then do
      let n ← tomlCount v
      applyPairs rest (k :: seen) { c with stackSize := some n }
    else .error tomlError

/-- Settings read from TOML text, then validated. -/
def ofToml (text : String) : Except Error WorkerConfig := do
  let pairs ← match Toml.readFlat text with
    | some ps => pure ps
    | none => throw tomlError
  let c ← applyPairs pairs [] {}
  c.validate
  pure c

/-- Settings read from the file at a path. -/
def ofFile (fs : FileStore) (path : String) : Except Error WorkerConfig :=
  match fs.lookup path with
  | .file data => ofToml data.text
  | _ => .error (.config ("cannot read " ++ path))

end WorkerConfig

end Affinity
