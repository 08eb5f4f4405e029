/-!
IP addresses and socket addresses: their written forms.

Reading follows the usual strict grammar. An IPv4 address is four decimal numbers below 256
of at most three digits, without leading zeros, separated by points. An IPv6 address is at
most eight groups of one to four hexadecimal digits separated by colons, with at most one
`::` standing for one or more zero groups, and may end in an IPv4 address. A socket address
is `ipv4:port` or `[ipv6]:port`, optionally with `%scope` after the IPv6 address; a port or
scope is decimal (leading zeros allowed) and must fit 16 or 32 bits.

Writing an IPv6 address (`Ipv6.render`) compresses the first longest run of two or more zero
groups into `::` and writes groups in lowercase hexadecimal; an IPv4-mapped address
(`::ffff:a.b.c.d`) keeps its dotted tail.
-/

namespace Affinity.Net

/-- An IP address: four octets or eight 16-bit groups. -/
inductive IpAddr where
  | v4 (octets : List Nat)
  | v6 (groups : List Nat)
  deriving DecidableEq, Repr

/-- A socket address: an IP address and a port (the scope of IPv6 is not kept). -/
structure SocketAddr where
  ip : IpAddr
  port : Nat
  deriving DecidableEq, Repr

/-- A reader: consumes a prefix and returns a value with the rest, or fails. -/
abbrev Reader (α : Type) := List Char → Option (α × List Char)

/-- The value of a digit in a radix up to sixteen. -/
def digit (radix : Nat) (c : Char) : Option Nat :=
  let v :=
    if c.isDigit then some (c.toNat - 48)
    else if 'a' ≤ c && c ≤ 'f' then some (c.toNat - 87)
    else if 'A' ≤ c && c ≤ 'F' then some (c.toNat - 55)
    else none
  v.bind fun d => if d < radix then some d else none

/-- The longest run of digits at the start, as a list of digit values. -/
def digitRun (radix : Nat) : List Char → List Nat × List Char
  | c :: cs =>
    match digit radix c with
    | some d => let (ds, rest) := digitRun radix cs; (d :: ds, rest)
    | none => ([], c :: cs)
  | [] => ([], [])

/-- A number: at least one digit, at most `maxDigits` if given, below `limit`, and without a
    leading zero unless `zeroPrefix`. -/
def number (radix limit : Nat) (maxDigits : Option Nat) (zeroPrefix : Bool) : Reader Nat :=
  fun cs =>
    let (ds, rest) := digitRun radix cs
    let v := ds.foldl (fun acc d => acc * radix + d) 0
    let tooLong := match maxDigits with
      | some m => ds.length > m
      | none => false
    if ds.isEmpty || tooLong || v ≥ limit then none
    else if !zeroPrefix && ds.length > 1 && ds.head? = some 0 then none
    else some (v, rest)

/-- Reads one character. -/
def exactly (c : Char) : Reader Unit
  | d :: rest => if d = c then some ((), rest) else none
  | [] => none

/-- An IPv4 address as four octets. -/
def ipv4 : Reader (List Nat) := fun cs => do
  let (a, r) ← number 10 256 (some 3) false cs
  let ((), r) ← exactly '.' r
  let (b, r) ← number 10 256 (some 3) false r
  let ((), r) ← exactly '.' r
  let (c, r) ← number 10 256 (some 3) false r
  let ((), r) ← exactly '.' r
  let (d, r) ← number 10 256 (some 3) false r
  pure ([a, b, c, d], r)

/-- Reads `inner`, preceded by a colon unless it is the first group. -/
def separated (first : Bool) (inner : Reader α) : Reader α := fun cs =>
  if first then inner cs else (exactly ':' cs).bind fun ((), r) => inner r

/-- Up to `limit` groups; an IPv4 tail counts as two groups and ends the run. Returns the
    groups, whether the run ended in IPv4, and the rest. -/
def groups : Nat → Bool → Reader (List Nat × Bool)
  | 0, _ => fun cs => some (([], false), cs)
  | limit + 1, first => fun cs =>
    let tail4 : Option ((List Nat × Bool) × List Char) :=
      if limit ≥ 1 then
        (separated first ipv4 cs).bind fun (o, r) =>
          match o with
          | [a, b, c, d] => some (([a * 256 + b, c * 256 + d], true), r)
          | _ => none
      else none
    match tail4 with
    | some res => some res
    | none =>
      match separated first (number 16 65536 (some 4) true) cs with
      | some (g, r) =>
        (groups limit false r).map fun ((gs, v4), rest) => ((g :: gs, v4), rest)
      | none => some (([], false), cs)

/-- An IPv6 address as eight groups. -/
def ipv6 : Reader (List Nat) := fun cs => do
  let ((head, head4), r) ← groups 8 true cs
  if head.length = 8 then pure (head, r)
  else if head4 then none
  else
    let ((), r) ← exactly ':' r
    let ((), r) ← exactly ':' r
    let ((tail, _), r) ← groups (8 - (head.length + 1)) true r
    pure (head ++ List.replicate (8 - head.length - tail.length) 0 ++ tail, r)

/-- A port after its colon. -/
def port : Reader Nat := fun cs =>
  (exactly ':' cs).bind fun ((), r) => number 10 65536 none true r

/-- `ipv4:port`. -/
def socketV4 : Reader SocketAddr := fun cs => do
  let (ip, r) ← ipv4 cs
  let (p, r) ← port r
  pure ({ ip := .v4 ip, port := p }, r)

/-- `[ipv6]:port`, optionally with a scope. -/
def socketV6 : Reader SocketAddr := fun cs => do
  let ((), r) ← exactly '[' cs
  let (ip, r) ← ipv6 r
  let r ← match exactly '%' r with
    | some ((), r') => (number 10 (Nat.pow 2 32) none true r').map (·.2)
    | none => some r
  let ((), r) ← exactly ']' r
  let (p, r) ← port r
  pure ({ ip := .v6 ip, port := p }, r)

/-- Reads a whole text as a socket address. -/
def SocketAddr.read (s : String) : Option SocketAddr :=
  let cs := s.toList
  match socketV4 cs with
  | some (a, []) => some a
  | _ =>
    match socketV6 cs with
    | some (a, []) => some a
    | _ => none

/-- Lowercase hexadecimal digits of a number. -/
def hex (n : Nat) : String := String.ofList (Nat.toDigits 16 n)

/-- Groups joined by colons. -/
def joinGroups (gs : List Nat) : String := ":".intercalate (gs.map hex)

/-- The first longest run of zero groups: its start and length. -/
def longestZeroRun (gs : List Nat) : Nat × Nat :=
  let step := fun (acc : (Nat × Nat) × (Nat × Nat) × Nat) (g : Nat) =>
    let (best, cur, i) := acc
    let cur := if g = 0 then (if cur.2 = 0 then (i, 1) else (cur.1, cur.2 + 1)) else (0, 0)
    let best := if cur.2 > best.2 then cur else best
    (best, cur, i + 1)
  (gs.foldl step ((0, 0), (0, 0), 0)).1

/-- The dotted form of four octets. -/
def renderV4 (o : List Nat) : String := ".".intercalate (o.map toString)

/-- The written form of eight groups. -/
def renderV6 (gs : List Nat) : String :=
  match gs with
  | [0, 0, 0, 0, 0, 0xFFFF, x, y] => "::ffff:" ++ renderV4 [x / 256, x % 256, y / 256, y % 256]
  | _ =>
    let (start, len) := longestZeroRun gs
    if len > 1 then joinGroups (gs.take start) ++ "::" ++ joinGroups (gs.drop (start + len))
    else joinGroups gs

/-- The written form of an IP address. -/
def IpAddr.render : IpAddr → String
  | .v4 o => renderV4 o
  | .v6 gs => renderV6 gs

/-- Whether an address is IPv4. -/
def IpAddr.isV4 : IpAddr → Bool
  | .v4 _ => true
  | .v6 _ => false

end Affinity.Net
