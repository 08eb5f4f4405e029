import Affinity.Text.Blank
import Affinity.Text.CharClass
/-!
Patterns that a log filter's field values are matched against.

A pattern is a regular expression in the usual syntax: alternation `|`, groups `( … )` (plain,
non-capturing `(?: … )`, named `(?P<n> … )` or `(?<n> … )`, and flag groups `(?flags)` or
`(?flags: … )`), bracketed classes with ranges, nested classes, ASCII classes `[:name:]` and the
set operators `&&`, `--`, `~~`, the repetitions `*`, `+`, `?` and `{n}`, `{n,}`, `{n,m}` (each
optionally lazy), the anchors `^`, `$`, `\A`, `\z`, and escapes.

Patterns are compiled to a deterministic automaton over text, without any Unicode property
table. So besides being well formed, a pattern must not need one:

* in Unicode mode (the default) the Perl classes `\d`, `\s`, `\w` and their negations, word
  boundaries (`\b`, `\B`, `\<`, `\>`), and case-insensitive matching of any literal or class are
  refused;
* `\p` and `\P` are always refused;
* with Unicode off (`(?-u)`) the Perl classes and boundaries are ASCII and allowed, but the
  pattern must match valid UTF-8 only: no `.`, no negated class or negated Perl class, no
  byte escape `\xHH` above 0x7F, no class member outside ASCII, and no case-insensitive
  literal outside ASCII.

Lookaround, backreferences and the octal escapes are not supported. `compiles` decides whether a
text is an acceptable pattern; every reader consumes at least one character per step, so the
character count bounds the work.
-/

namespace Affinity.Pattern

/-- The flags that change how a pattern is read. -/
structure Flags where
  /-- `i`: literals and classes match regardless of case. -/
  caseless : Bool := false
  /-- `u`: characters are Unicode scalar values rather than bytes. -/
  unicode : Bool := true
  /-- `x`: blanks are ignored and `#` starts a comment. -/
  verbose : Bool := false
  deriving DecidableEq, Repr

/-- What an escape stands for. -/
inductive Escape where
  /-- A character or, for `\xHH`, a byte. -/
  | literal (code : Nat) (byte : Bool)
  /-- A Perl class: `\d`, `\s`, `\w`, or a negation `\D`, `\S`, `\W`. -/
  | perl (negated : Bool)
  /-- A word boundary assertion. -/
  | boundary
  /-- `\A` or `\z`. -/
  | anchor
  deriving DecidableEq, Repr

/-- Whether a character is an ASCII hexadecimal digit. -/
def isHex (c : Char) : Bool :=
  ('0' ≤ c && c ≤ '9') || ('a' ≤ c && c ≤ 'f') || ('A' ≤ c && c ≤ 'F')

/-- The value of a list of hexadecimal digits. -/
def hexValue (ds : List Char) : Nat :=
  ds.foldl (fun n c =>
    n * 16 + if c ≤ '9' then c.toNat - '0'.toNat
      else if c ≤ 'F' then c.toNat - 'A'.toNat + 10 else c.toNat - 'a'.toNat + 10) 0

/-- Whether a number is a Unicode scalar value. -/
def isScalar (n : Nat) : Bool :=
  n ≤ 0x10FFFF && !(0xD800 ≤ n && n ≤ 0xDFFF)

/-- Whether an escaped character stands for itself: ASCII punctuation other than `<` and `>`,
    and the space. -/
def isEscapable (c : Char) : Bool :=
  c.toNat < 0x80 && !c.isAlphanum && c != '<' && c != '>'

/-- Reads the digits of `\x`, `\u` or `\U` after the letter: `width` digits, or any number of
    them between braces. The value must be a scalar value. -/
def readHex (width : Nat) (cs : List Char) : Option (Escape × List Char) :=
  match cs with
  | '{' :: r =>
    let ds := r.takeWhile (· != '}')
    match r.dropWhile (· != '}') with
    | '}' :: rest =>
      if !ds.isEmpty && ds.all isHex && isScalar (hexValue ds) then
        some (.literal (hexValue ds) false, rest)
      else none
    | _ => none
  | _ =>
    let ds := cs.take width
    if ds.length == width && ds.all isHex && isScalar (hexValue ds) then
      some (.literal (hexValue ds) (width == 2), cs.drop width)
    else none

/-- The special word boundaries `\b{start}`, `\b{end}`, `\b{start-half}` and `\b{end-half}`. -/
def specialBoundaries : List String := ["start", "end", "start-half", "end-half"]

/-- Reads what follows `\b`: a special boundary name in braces when the brace is followed by a
    letter or `-`, otherwise nothing (a brace then starts a repetition). -/
def readBoundary (cs : List Char) : Option (Escape × List Char) :=
  let nameChar (c : Char) : Bool := c.isAlpha || c == '-'
  match cs with
  | '{' :: [] => none
  | '{' :: c :: r =>
    if nameChar c then
      let name := (c :: r).takeWhile nameChar
      match (c :: r).dropWhile nameChar with
      | '}' :: rest =>
        if specialBoundaries.contains (String.ofList name) then some (.boundary, rest) else none
      | _ => none
    else some (.boundary, cs)
  | _ => some (.boundary, cs)

/-- Reads an escape after its backslash. -/
def readEscape : List Char → Option (Escape × List Char)
  | [] => none
  | c :: r =>
    if '0' ≤ c && c ≤ '9' then none
    else if c == 'x' then readHex 2 r
    else if c == 'u' then readHex 4 r
    else if c == 'U' then readHex 8 r
    else if c == 'p' || c == 'P' then none
    else if c == 'd' || c == 's' || c == 'w' then some (.perl false, r)
    else if c == 'D' || c == 'S' || c == 'W' then some (.perl true, r)
    else if isEscapable c then some (.literal c.toNat false, r)
    else match c with
      | 'a' => some (.literal 7 false, r)
      | 'f' => some (.literal 12 false, r)
      | 't' => some (.literal 9 false, r)
      | 'n' => some (.literal 10 false, r)
      | 'r' => some (.literal 13 false, r)
      | 'v' => some (.literal 11 false, r)
      | 'A' | 'z' => some (.anchor, r)
      | 'b' => readBoundary r
      | 'B' | '<' | '>' => some (.boundary, r)
      | _ => none

/-- Whether a literal can be matched under the flags. -/
def literalOk (f : Flags) (code : Nat) (byte : Bool) : Bool :=
  if f.unicode then !f.caseless
  else !(byte && code > 0x7F) && !(f.caseless && code > 0x7F)

/-- Whether an escape can stand where an expression goes. -/
def escapeOk (f : Flags) : Escape → Bool
  | .literal code byte => literalOk f code byte
  | .perl negated => !f.unicode && !negated
  | .boundary => !f.unicode
  | .anchor => true

/-- The names of the ASCII classes. -/
def asciiClassNames : List String :=
  ["alnum", "alpha", "ascii", "blank", "cntrl", "digit", "graph", "lower", "print", "punct",
   "space", "upper", "word", "xdigit"]

/-- Reads an ASCII class `[:name:]` or `[:^name:]` after its first `[`. -/
def readAsciiClass (cs : List Char) : Option (List Char) :=
  match cs with
  | ':' :: r =>
    let r := match r with
      | '^' :: r' => r'
      | _ => r
    let name := r.takeWhile (· != ':')
    match r.dropWhile (· != ':') with
    | ':' :: ']' :: rest =>
      if asciiClassNames.contains (String.ofList name) then some rest else none
    | _ => none
  | _ => none

/-- A member of a class: a literal (its code, and whether it is a byte) or a Perl class. -/
inductive Member where
  | literal (code : Nat) (byte : Bool)
  | perl (negated : Bool)
  deriving DecidableEq, Repr

/-- Reads one class member. Assertions are not members. -/
def readMember (cs : List Char) : Option (Member × List Char) :=
  match cs with
  | '\\' :: r =>
    match readEscape r with
    | some (.literal code byte, rest) => some (.literal code byte, rest)
    | some (.perl n, rest) => some (.perl n, rest)
    | _ => none
  | c :: r => some (.literal c.toNat false, r)
  | [] => none

/-- Whether a class member can be matched under the flags. -/
def memberOk (f : Flags) : Member → Bool
  | .literal code _ => f.unicode || code ≤ 0x7F
  | .perl negated => !f.unicode && !negated

/-- Reads the opening of a class after its `[`: an optional `^`, then any number of `-` and,
    when no `-` came, a `]`, all taken literally. Returns whether the class is negated. -/
def classOpen (cs : List Char) : Bool × List Char :=
  let (negated, r) := match cs with
    | '^' :: r => (true, r)
    | _ => (false, cs)
  match r with
  | '-' :: _ => (negated, r.dropWhile (· == '-'))
  | ']' :: r' => (negated, r')
  | _ => (negated, r)

/-- Reads the rest of a class up to and past its closing `]`: members, ranges `a-b` of literals
    in order, nested classes, ASCII classes and set operators. `fuel` bounds the steps. -/
def classBody (f : Flags) : Nat → List Char → Option (List Char)
  | 0, _ => none
  | _ + 1, [] => none
  | _ + 1, ']' :: r => some r
  | fuel + 1, '[' :: r =>
    match readAsciiClass r with
    | some rest => classBody f fuel rest
    | none =>
      let (negated, inner) := classOpen r
      if negated && !f.unicode then none
      else match classBody f fuel inner with
        | some rest => classBody f fuel rest
        | none => none
  | fuel + 1, '&' :: '&' :: r => classBody f fuel r
  | fuel + 1, '-' :: '-' :: r => classBody f fuel r
  | fuel + 1, '~' :: '~' :: r => classBody f fuel r
  | fuel + 1, cs =>
    match readMember cs with
    | none => none
    | some (m, r) =>
      if !memberOk f m then none
      else match r with
        | '-' :: c :: r2 =>
          if c == ']' || c == '-' then classBody f fuel r
          else match m, readMember (c :: r2) with
            | .literal lo _, some (.literal hi b, r3) =>
              if lo ≤ hi && memberOk f (.literal hi b) then classBody f fuel r3 else none
            | _, _ => none
        | ['-'] => none
        | _ => classBody f fuel r

/-- Reads a whole class after its `[`. -/
def readClass (f : Flags) (cs : List Char) : Option (List Char) :=
  let (negated, inner) := classOpen cs
  if (f.unicode && f.caseless) || (negated && !f.unicode) then none
  else classBody f (cs.length + 1) inner

/-- Whether a character may open a group name. -/
def nameStart (c : Char) : Bool :=
  c == '_' || (Text.alphanumeric.contains c.toNat && !('0' ≤ c && c ≤ '9'))

/-- Whether a character may continue a group name. -/
def nameRest (c : Char) : Bool :=
  c == '_' || c == '.' || c == '[' || c == ']' || Text.alphanumeric.contains c.toNat

/-- Reads a group name up to and past its `>`. -/
def readName (cs : List Char) : Option (String × List Char) :=
  let name := cs.takeWhile (· != '>')
  match cs.dropWhile (· != '>'), name with
  | '>' :: rest, c :: more =>
    if nameStart c && more.all nameRest then some (String.ofList name, rest) else none
  | _, _ => none

/-- Applies one flag letter. -/
def setFlag (f : Flags) (c : Char) (on : Bool) : Option Flags :=
  match c with
  | 'i' => some { f with caseless := on }
  | 'u' => some { f with unicode := on }
  | 'x' => some { f with verbose := on }
  | 'm' | 's' | 'U' | 'R' => some f
  | _ => none

/-- Reads the flag letters of `(?flags)` or `(?flags:`, up to and past the `)` or `:`. Each
    letter appears once, `-` at most once and never last. Returns the new flags, whether a group
    follows (`:`), and how many flag letters there were. -/
def readFlags (f : Flags) : List Char → List Char → Bool → Nat → Option (Flags × Bool × Nat × List Char)
  | [], _, _, _ => none
  | ')' :: r, _, negating, n => if negating && n == 0 then none else some (f, false, n, r)
  | ':' :: r, _, negating, n => if negating && n == 0 then none else some (f, true, n, r)
  | '-' :: r, seen, negating, _ =>
    if negating then none else readFlags f r seen true 0
  | c :: r, seen, negating, n =>
    if seen.contains c then none
    else match setFlag f c (!negating) with
      | some f' => readFlags f' r (c :: seen) negating (n + 1)
      | none => none

/-- Reads a counted repetition after its `{`: `n`, `n,` or `n,m` with `n ≤ m`, closed by `}`,
    optionally followed by `?`. -/
def readCount (cs : List Char) : Option (List Char) :=
  let digits (l : List Char) := l.takeWhile Char.isDigit
  let value (l : List Char) := l.foldl (fun n c => n * 10 + (c.toNat - '0'.toNat)) 0
  let lo := digits cs
  let r := cs.drop lo.length
  let lazy (l : List Char) := match l with
    | '?' :: l' => l'
    | _ => l
  if lo.isEmpty || value lo ≥ Nat.pow 2 32 then none
  else match r with
    | '}' :: rest => some (lazy rest)
    | ',' :: '}' :: rest => some (lazy rest)
    | ',' :: r2 =>
      let hi := digits r2
      match r2.drop hi.length with
      | '}' :: rest =>
        if hi.isEmpty || value hi ≥ Nat.pow 2 32 || value hi < value lo then none else some (lazy rest)
      | _ => none
    | _ => none

/-- The state of reading a pattern. -/
structure Reader where
  /-- The flags in force. -/
  flags : Flags := {}
  /-- The flags to restore at each open group's `)`, innermost first. -/
  groups : List Flags := []
  /-- Whether a repetition may follow: something repeatable was just read. -/
  repeatable : Bool := false
  /-- The group names used so far. -/
  names : List String := []

/-- Reads a pattern to its end; `fuel` bounds the steps, each consuming a character. -/
def scan : Nat → Reader → List Char → Bool
  | 0, _, _ => false
  | _ + 1, st, [] => st.groups.isEmpty
  | fuel + 1, st, c :: r =>
    let atom (rest : List Char) := scan fuel { st with repeatable := true } rest
    if st.flags.verbose && Text.isBlank c then scan fuel st r
    else if st.flags.verbose && c == '#' then scan fuel st (r.dropWhile (· != '\n'))
    else match c with
    | '(' =>
      let enter (rest : List Char) (names : List String) :=
        scan fuel { st with groups := st.flags :: st.groups, repeatable := false, names } rest
      match r with
      | '?' :: '=' :: _ | '?' :: '!' :: _ | '?' :: '<' :: '=' :: _ | '?' :: '<' :: '!' :: _ => false
      | '?' :: 'P' :: '<' :: r2 | '?' :: '<' :: r2 =>
        match readName r2 with
        | some (name, rest) => if st.names.contains name then false else enter rest (name :: st.names)
        | none => false
      | '?' :: r2 =>
        match readFlags st.flags r2 [] false 0 with
        | some (f, true, _, rest) =>
          scan fuel { st with flags := f, groups := st.flags :: st.groups, repeatable := false } rest
        | some (f, false, n, rest) =>
          if n == 0 then false else scan fuel { st with flags := f, repeatable := false } rest
        | none => false
      | _ => enter r st.names
    | ')' =>
      match st.groups with
      | saved :: outer => scan fuel { st with flags := saved, groups := outer, repeatable := true } r
      | [] => false
    | '|' => scan fuel { st with repeatable := false } r
    | '*' | '+' | '?' =>
      if !st.repeatable then false
      else match r with
        | '?' :: rest => atom rest
        | _ => atom r
    | '{' =>
      if !st.repeatable then false
      else match readCount r with
        | some rest => atom rest
        | none => false
    | '[' =>
      match readClass st.flags r with
      | some rest => atom rest
      | none => false
    | '\\' =>
      match readEscape r with
      | some (e, rest) => if escapeOk st.flags e then atom rest else false
      | none => false
    | '.' => if st.flags.unicode then atom r else false
    | '^' | '$' => atom r
    | _ => if literalOk st.flags c.toNat false then atom r else false

/-- Whether a text is a pattern that compiles. -/
def compiles (s : String) : Bool :=
  scan (s.length + 1) {} s.toList

end Affinity.Pattern
