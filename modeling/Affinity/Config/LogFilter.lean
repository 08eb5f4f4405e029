import Affinity.Text.Blank
import Affinity.Text.CharClass
import Affinity.Text.Pattern
import Affinity.Text.Quoted
/-!
Log filter directives.

A filter is a list of directives separated by commas; empty directives are skipped, and the
empty filter has no directives. A directive is read by a small state machine over the
characters of the directive with blanks trimmed from both ends:

* a directive starting with `[` names a span, `[name]`, optionally with fields
  `[name{f1,f2=value}]` (the name may be empty); anything else starts with a letter, a number,
  `-`, `:` or `_`, and runs up to `=` or `[` as the target, or to the end as a level or target;
* after the span comes `=` and a level, or the end; nothing else may follow it;
* the level after `=` is read as a level filter (`Filter.parseLevel`): a number from 0 to 5
  or a level word in any ASCII case; an empty level allows everything;
* a bare word that reads as a level filter is a global level, otherwise it is a target that
  allows everything.

Field values are booleans, unsigned or signed 64-bit integers, floating-point numbers, or
patterns that must compile (`Pattern.compiles`). A field list may not hold an empty field.

The state machine keeps byte offsets into the trimmed text but cuts the pieces it keeps out of
the untrimmed one. With leading blanks every piece is therefore shifted by their length; an
offset that lands inside a character stops the program with a panic (`Failure.panic`) whose
message names the offset, the character and the text.

`Filter.enables` says whether parsed directives let through an event outside any span: only
static directives take part (no span name, no field value); of those whose target starts the
event's target and whose field names the event has, the most specific decides (longest target,
then most field names, the last of equal ones), and none matching means the event is dropped.
-/

namespace Affinity.Filter

/-- How reading a filter goes wrong. -/
inductive Failure where
  /-- The text is not a filter. -/
  | invalid
  /-- Reading the text stops the program with this panic message. -/
  | panic (message : String)
  deriving DecidableEq, Repr

/-- The value of a list of decimal digits. -/
def decimalValue (ds : List Char) : Nat :=
  ds.foldl (fun n c => n * 10 + (c.toNat - '0'.toNat)) 0

/-- The digits of an unsigned number with an optional leading `+`, if that is what the text is. -/
def unsignedDigits (s : List Char) : Option (List Char) :=
  let ds := match s with
    | '+' :: r => r
    | _ => s
  if !ds.isEmpty && ds.all Char.isDigit then some ds else none

/-- The verbosity a level filter text allows: an unsigned number from 0 (`off`) to 5 (`trace`),
    the empty text (errors only), or a level word in any ASCII case. -/
def parseLevel (s : List Char) : Option Nat :=
  match unsignedDigits s with
  | some ds => if decimalValue ds ≤ 5 then some (decimalValue ds) else none
  | none =>
    match String.ofList (s.map Char.toLower) with
    | "" | "error" => some 1
    | "off" => some 0
    | "warn" => some 2
    | "info" => some 3
    | "debug" => some 4
    | "trace" => some 5
    | _ => none

/-- An unsigned 64-bit integer, as text. -/
def parseUnsigned (s : List Char) : Option Nat :=
  (unsignedDigits s).bind fun ds => if decimalValue ds < Nat.pow 2 64 then some (decimalValue ds) else none

/-- A signed 64-bit integer, as text. -/
def parseSigned (s : List Char) : Option Int :=
  match s with
  | '-' :: r =>
    if !r.isEmpty && r.all Char.isDigit && decimalValue r ≤ Nat.pow 2 63 then some (-(decimalValue r : Int))
    else none
  | _ => (unsignedDigits s).bind fun ds =>
    if decimalValue ds < Nat.pow 2 63 then some (decimalValue ds : Int) else none

/-- Whether a text is a floating-point number: an optional sign, then `inf`, `infinity` or `nan`
    in any ASCII case, or digits with an optional fraction (at least one digit in all) and an
    optional exponent. -/
def isFloat (s : List Char) : Bool :=
  let body := match s with
    | '+' :: r | '-' :: r => r
    | _ => s
  let word := String.ofList (body.map Char.toLower)
  if word == "inf" || word == "infinity" || word == "nan" then true
  else
    let whole := body.takeWhile Char.isDigit
    let r := body.drop whole.length
    let (frac, r) := match r with
      | '.' :: r' => (r'.takeWhile Char.isDigit, r'.drop (r'.takeWhile Char.isDigit).length)
      | _ => ([], r)
    let expOk := match r with
      | [] => true
      | e :: r' =>
        (e == 'e' || e == 'E') &&
          let ds := match r' with
            | '+' :: d | '-' :: d => d
            | _ => r'
          !ds.isEmpty && ds.all Char.isDigit
    (!whole.isEmpty || !frac.isEmpty) && expOk

/-- What a span field's value must be. -/
inductive ValueMatch where
  | bool (b : Bool)
  | unsigned (n : Nat)
  | signed (i : Int)
  | float (text : String)
  | pattern (text : String)
  deriving DecidableEq, Repr

/-- Reads a field value: a boolean, an unsigned then a signed integer, a floating-point number,
    and last a pattern, which must compile. -/
def parseValue (s : List Char) : Option ValueMatch :=
  let text := String.ofList s
  if text == "true" then some (.bool true)
  else if text == "false" then some (.bool false)
  else match parseUnsigned s, parseSigned s with
    | some n, _ => some (.unsigned n)
    | none, some i => some (.signed i)
    | none, none =>
      if isFloat s then some (.float text)
      else if Pattern.compiles text then some (.pattern text) else none

/-- A field a directive constrains: its name and, optionally, the value it must have. -/
structure FieldMatch where
  name : String
  value : Option ValueMatch
  deriving DecidableEq, Repr

/-- Reads a field: the name runs to the first `=`, and the value, when there is one, from there
    to the next `=` or the end. -/
def parseField (s : List Char) : Option FieldMatch :=
  let name := String.ofList (s.takeWhile (· != '='))
  match s.dropWhile (· != '=') with
  | [] => some { name, value := none }
  | _ :: rest => (parseValue (rest.takeWhile (· != '='))).map fun v => { name, value := some v }

/-- A directive: an optional target, span name and fields, and the verbosity it allows. -/
structure Directive where
  target : Option String := none
  span : Option String := none
  fields : List FieldMatch := []
  level : Nat := 5
  deriving DecidableEq, Repr

/-- The characters of a text, each with the byte offset it starts at. -/
def withOffsets : List Char → Nat → List (Nat × Char)
  | [], _ => []
  | c :: cs, n => (n, c) :: withOffsets cs (n + c.utf8Size)

/-- The length of a text in bytes. -/
def byteLength (cs : List Char) : Nat :=
  cs.foldl (fun n c => n + c.utf8Size) 0

/-- Whether a byte offset lies between two characters of a text, or at one of its ends. -/
def isBoundary (cs : List Char) (i : Nat) : Bool :=
  i == byteLength cs || (withOffsets cs 0).any (·.1 == i)

/-- The longest start of a text that fits in `limit` bytes. -/
def truncate (cs : List Char) (limit : Nat) : List Char :=
  ((withOffsets cs 0).filter fun p => p.1 + p.2.utf8Size ≤ limit).map (·.2)

/-- The panic message for a cut at an offset inside a character of `cs`. -/
def boundaryPanic (cs : List Char) (index : Nat) : String :=
  let inside := (withOffsets cs 0).filter fun p => p.1 < index && index < p.1 + p.2.utf8Size
  let shown := truncate cs 256
  let ellipsis := if shown.length < cs.length then "[...]" else ""
  let place := match inside with
    | (start, c) :: _ =>
      Text.quoteSingle c ++ " (bytes " ++ toString start ++ ".." ++ toString (start + c.utf8Size) ++ ")"
    | [] => ""
  "byte index " ++ toString index ++ " is not a char boundary; it is inside " ++ place ++
    " of \x60" ++ String.ofList shown ++ "\x60" ++ ellipsis

/-- The piece of `cs` from byte offset `a` to `b` (or to the end); an offset inside a character
    panics, the start checked first. -/
def cut (cs : List Char) (a : Nat) (b : Option Nat) : Except Failure (List Char) :=
  let stop := b.getD (byteLength cs)
  if !isBoundary cs a then .error (.panic (boundaryPanic cs a))
  else if !isBoundary cs stop then .error (.panic (boundaryPanic cs stop))
  else .ok (((withOffsets cs 0).filter fun p => a ≤ p.1 && p.1 < stop).map (·.2))

/-- The states of the directive reader; offsets are where the current piece starts. -/
inductive State where
  | start
  | levelOrTarget (start : Nat)
  | span (start : Nat)
  | field (start : Nat)
  | fields
  | target
  | level (start : Nat)
  | complete
  deriving DecidableEq, Repr

/-- A bare word from `start` to the end: a global level if it reads as one, else a target. -/
def levelOrTarget (src : List Char) (start : Nat) (d : Directive) : Except Failure Directive := do
  let w ← cut src start none
  if w.isEmpty then pure { d with level := 5, target := none }
  else match parseLevel w with
    | some l => pure { d with level := l, target := none }
    | none => pure { d with level := 5, target := some (String.ofList w) }

/-- The level from `start` to `stop` (or the end); empty allows everything. -/
def levelAt (src : List Char) (start : Nat) (stop : Option Nat) (d : Directive) :
    Except Failure Directive := do
  let w ← cut src start stop
  if w.isEmpty then pure { d with level := 5 }
  else match parseLevel w with
    | some l => pure { d with level := l }
    | none => throw .invalid

/-- The field from `start` to `stop`, added to the directive; an empty field is refused. -/
def fieldAt (src : List Char) (start stop : Nat) (d : Directive) : Except Failure Directive := do
  let w ← cut src start (some stop)
  if w.isEmpty then throw .invalid
  match parseField w with
  | some f => pure { d with fields := d.fields ++ [f] }
  | none => throw .invalid

/-- One step of the reader at the character `c`, found at offset `i`. -/
def step (src : List Char) (d : Directive) : State → Nat → Char → Except Failure (Directive × State)
  | .start, i, c =>
    if c == '[' then .ok (d, .span (i + 1))
    else if c == '-' || c == ':' || c == '_' || Text.alphanumeric.contains c.toNat then
      .ok (d, .levelOrTarget i)
    else .error .invalid
  | .levelOrTarget s, i, c =>
    if c == '=' then do
      let t ← cut src s (some i)
      pure ({ d with target := some (String.ofList t) }, .level (i + 1))
    else if c == '[' then do
      let t ← cut src s (some i)
      pure ({ d with target := some (String.ofList t) }, .span (i + 1))
    else if c == ',' then do
      pure (← levelOrTarget src s d, .complete)
    else .ok (d, .levelOrTarget s)
  | .target, i, c => if c == '=' then .ok (d, .level (i + 1)) else .error .invalid
  | .span s, i, c =>
    if c == ']' then do
      let n ← cut src s (some i)
      pure ({ d with span := some (String.ofList n) }, .target)
    else if c == '{' then do
      let n ← cut src s (some i)
      pure ({ d with span := if n.isEmpty then none else some (String.ofList n) }, .field (i + 1))
    else .ok (d, .span s)
  | .field s, i, c =>
    if c == '}' then do pure (← fieldAt src s i d, .fields)
    else if c == ',' then do pure (← fieldAt src s i d, .field (i + 1))
    else .ok (d, .field s)
  | .fields, _, c => if c == ']' then .ok (d, .target) else .error .invalid
  | .level s, i, c =>
    if c == ',' then do pure (← levelAt src s (some i) d, .complete)
    else .ok (d, .level s)
  | .complete, _, _ => .error .invalid

/-- Runs the reader over characters with their offsets. -/
def run (src : List Char) : List (Nat × Char) → Directive → State → Except Failure (Directive × State)
  | [], d, st => .ok (d, st)
  | (i, c) :: rest, d, st => do
    let (d, st) ← step src d st i c
    run src rest d st

/-- Reads one directive. -/
def Directive.parse (s : String) : Except Failure Directive := do
  let src := s.toList
  let (d, st) ← run src (withOffsets (Text.trimChars src) 0) {} .start
  match st with
  | .levelOrTarget start => levelOrTarget src start d
  | .level start => levelAt src start none d
  | .target | .complete => pure d
  | _ => throw .invalid

/-- Splits a text at commas. -/
def splitCommas (s : String) : List String :=
  s.splitOn ","

/-- Reads a filter: its directives, in order. -/
def parse (s : String) : Except Failure (List Directive) :=
  if s.isEmpty then .ok []
  else ((splitCommas s).filter fun d => !d.isEmpty).mapM Directive.parse

/-- Whether a text is a filter. -/
def valid (s : String) : Bool :=
  match parse s with
  | .ok _ => true
  | .error _ => false

/-- A directive that applies outside spans: its target, the field names an event must have, and
    the verbosity it allows. Directives with a span name or a field value have none. -/
def Directive.static (d : Directive) : Option (Option String × List String × Nat) :=
  if d.span.isNone && d.fields.all (·.value.isNone) then
    some (d.target, d.fields.map (·.name), d.level)
  else none

/-- Whether one static directive is at least as specific as another: a longer target (no target
    counting least), then more field names, then the greater field names. -/
def atLeastAsSpecific (a b : Option String × List String × Nat) : Bool :=
  let len (t : Option String) : Nat := match t with
    | some t => t.length + 1
    | none => 0
  if len a.1 != len b.1 then len a.1 > len b.1
  else if a.2.1.length != b.2.1.length then a.2.1.length > b.2.1.length
  else !decide (a.2.1 < b.2.1)

/-- Whether directives let through an event of `target` with the field names `fields` at
    verbosity `rank`. -/
def enables (ds : List Directive) (target : String) (fields : List String) (rank : Nat) : Bool :=
  let matching := (ds.filterMap Directive.static).filter fun d =>
    (match d.1 with
      | some t => t.isPrefixOf target
      | none => true) && d.2.1.all (fields.contains ·)
  match matching.foldl (fun acc d =>
      match acc with
      | some a => if atLeastAsSpecific d a then some d else acc
      | none => some d) none with
  | some d => rank ≤ d.2.2
  | none => false

end Affinity.Filter
