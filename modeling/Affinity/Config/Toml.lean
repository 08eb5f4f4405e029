/-!
Flat TOML documents.

A flat document is a sequence of lines, each blank, a comment, or `key = value` with an
optional trailing comment. Keys are bare (`A-Z a-z 0-9 _ -`) or quoted; values are integers
or strings. Integers follow TOML: decimal with an optional sign and no leading zero, or
`0x`, `0o`, `0b` with digits; an underscore may stand between two digits. Strings are basic
(`"…"`, with escapes), literal (`'…'`), or their multi-line forms. Escapes are `\b`, `\t`,
`\n`, `\f`, `\r`, `\e`, `\"`, `\\`, `\xHH`, `\uHHHH` and `\UHHHHHHHH`; a multi-line string keeps
its line ends as written (a carriage return only before a line feed), except a line end right
after the opening delimiter.

`readFlat` returns the pairs in document order, or nothing when the text is not such a
document: table headers, dotted keys, arrays, inline tables, booleans, floats and dates are
all refused, as is every syntax error. Settings whose values are integers or strings need no
more than this.
-/

namespace Affinity.Toml

/-- A value of a flat document. -/
inductive Scalar where
  | integer (v : Int)
  | text (s : String)
  deriving DecidableEq, Repr

/-- Characters of a bare key. -/
def isBareKeyChar (c : Char) : Bool := c.isAlphanum || c == '_' || c == '-'

/-- Control characters, which may not stand raw in a string or comment (the tab may). -/
def isForbidden (c : Char) : Bool := (c.toNat < 0x20 && c != '\t') || c.toNat == 0x7F

/-- Drops spaces and tabs. -/
def skipBlanks : List Char → List Char
  | ' ' :: r => skipBlanks r
  | '\t' :: r => skipBlanks r
  | r => r

/-- The value of a digit in a radix up to sixteen. -/
def digitValue (radix : Nat) (c : Char) : Option Nat :=
  let v :=
    if c.isDigit then some (c.toNat - 48)
    else if 'a' ≤ c && c ≤ 'f' then some (c.toNat - 87)
    else if 'A' ≤ c && c ≤ 'F' then some (c.toNat - 55)
    else none
  v.bind fun d => if d < radix then some d else none

/-- Digits of a radix, an underscore allowed only between two digits. -/
def digitsValue (radix : Nat) : List Char → Option Nat
  | [] => none
  | c :: cs => (digitValue radix c).bind fun d => go d cs
where
  go (acc : Nat) : List Char → Option Nat
    | [] => some acc
    | '_' :: c :: cs => (digitValue radix c).bind fun d => go (acc * radix + d) cs
    | c :: cs => (digitValue radix c).bind fun d => go (acc * radix + d) cs

/-- An integer token. -/
def integerValue : List Char → Option Int
  | '0' :: 'x' :: r => (digitsValue 16 r).map Int.ofNat
  | '0' :: 'o' :: r => (digitsValue 8 r).map Int.ofNat
  | '0' :: 'b' :: r => (digitsValue 2 r).map Int.ofNat
  | '+' :: r => unsigned r
  | '-' :: r => (unsigned r).map Int.neg
  | r => unsigned r
where
  unsigned : List Char → Option Int
    | ['0'] => some 0
    | '0' :: _ => none
    | r => (digitsValue 10 r).map Int.ofNat

/-- Characters that may belong to a number, date or keyword token. -/
def isTokenChar (c : Char) : Bool :=
  c.isAlphanum || c == '_' || c == '+' || c == '-' || c == '.' || c == ':'

/-- Exactly `n` hexadecimal digits. -/
def hexRun : Nat → List Char → Option (Nat × List Char)
  | 0, cs => some (0, cs)
  | n + 1, c :: cs => (digitValue 16 c).bind fun d =>
      (hexRun n cs).map fun (v, rest) => (d * 16 ^ n + v, rest)
  | _ + 1, [] => none

/-- A Unicode scalar value. -/
def scalarChar (n : Nat) : Option Char :=
  if n < 0xD800 || (0xE000 ≤ n && n < 0x110000) then some (Char.ofNat n) else none

/-- The character of an escape, after the backslash. -/
def escape : List Char → Option (Char × List Char)
  | 'b' :: r => some ('\x08', r)
  | 't' :: r => some ('\t', r)
  | 'n' :: r => some ('\n', r)
  | 'f' :: r => some ('\x0c', r)
  | 'r' :: r => some ('\r', r)
  | '"' :: r => some ('"', r)
  | '\\' :: r => some ('\\', r)
  | 'e' :: r => some ('\x1b', r)
  | 'x' :: r => (hexRun 2 r).bind fun (v, rest) => (scalarChar v).map fun c => (c, rest)
  | 'u' :: r => (hexRun 4 r).bind fun (v, rest) => (scalarChar v).map fun c => (c, rest)
  | 'U' :: r => (hexRun 8 r).bind fun (v, rest) => (scalarChar v).map fun c => (c, rest)
  | _ => none

/-- Body of a basic string after its opening quote; `fuel` bounds the characters read. -/
def basicBody : Nat → List Char → List Char → Option (String × List Char)
  | 0, _, _ => none
  | _ + 1, acc, '"' :: r => some (String.ofList acc.reverse, r)
  | fuel + 1, acc, '\\' :: r => (escape r).bind fun (c, rest) => basicBody fuel (c :: acc) rest
  | fuel + 1, acc, c :: r => if isForbidden c then none else basicBody fuel (c :: acc) r
  | _ + 1, _, [] => none

/-- Body of a literal string after its opening quote. -/
def literalBody : List Char → List Char → Option (String × List Char)
  | acc, '\'' :: r => some (String.ofList acc.reverse, r)
  | acc, c :: r => if isForbidden c then none else literalBody (c :: acc) r
  | _, [] => none

/-- Drops a newline that directly follows the opening of a multi-line string. -/
def dropFirstNewline : List Char → List Char
  | '\n' :: r => r
  | '\r' :: '\n' :: r => r
  | r => r

/-- The length of the run of `q` at the start. -/
def runLength (q : Char) : List Char → Nat
  | c :: r => if c = q then runLength q r + 1 else 0
  | [] => 0

/-- Drops blanks and newlines after a line-ending backslash. -/
def skipLineEnd : List Char → List Char
  | ' ' :: r => skipLineEnd r
  | '\t' :: r => skipLineEnd r
  | '\n' :: r => skipLineEnd r
  | '\r' :: '\n' :: r => skipLineEnd r
  | r => r

/-- Whether blanks then a newline follow (a line-ending backslash). -/
def endsLine (cs : List Char) : Bool :=
  match skipBlanks cs with
  | '\n' :: _ => true
  | '\r' :: '\n' :: _ => true
  | _ => false

/-- Body of a multi-line string whose delimiter is three `q`; `escapes` for the basic form. -/
def multiBody (q : Char) (escapes : Bool) : Nat → List Char → List Char → Option (String × List Char)
  | 0, _, _ => none
  | fuel + 1, acc, cs@(c :: r) =>
    if c = q then
      let n := runLength q cs
      if n < 3 then multiBody q escapes fuel (List.replicate n q ++ acc) (cs.drop n)
      else if n ≤ 5 then some (String.ofList (List.replicate (n - 3) q ++ acc).reverse, cs.drop n)
      else none
    else if escapes && c = '\\' then
      if endsLine r then multiBody q escapes fuel acc (skipLineEnd r)
      else (escape r).bind fun (e, rest) => multiBody q escapes fuel (e :: acc) rest
    else if c = '\n' then multiBody q escapes fuel ('\n' :: acc) r
    else if c = '\r' then
      match r with
      | '\n' :: r' => multiBody q escapes fuel ('\n' :: '\r' :: acc) r'
      | _ => none
    else if isForbidden c then none
    else multiBody q escapes fuel (c :: acc) r
  | _ + 1, _, [] => none

/-- A string value, at its opening quote. -/
def stringValue (cs : List Char) : Option (String × List Char) :=
  match cs with
  | '"' :: '"' :: '"' :: r => multiBody '"' true (r.length + 1) [] (dropFirstNewline r)
  | '"' :: r => basicBody (r.length + 1) [] r
  | '\'' :: '\'' :: '\'' :: r => multiBody '\'' false (r.length + 1) [] (dropFirstNewline r)
  | '\'' :: r => literalBody [] r
  | _ => none

/-- A value: a string, or an integer token. -/
def value (cs : List Char) : Option (Scalar × List Char) :=
  match cs with
  | '"' :: _ | '\'' :: _ => (stringValue cs).map fun (s, rest) => (.text s, rest)
  | _ =>
    let tok := cs.takeWhile isTokenChar
    if tok.isEmpty then none
    else (integerValue tok).map fun v => (.integer v, cs.drop tok.length)

/-- A key: bare, basic-quoted or literal-quoted. -/
def key (cs : List Char) : Option (String × List Char) :=
  match cs with
  | '"' :: r => basicBody (r.length + 1) [] r
  | '\'' :: r => literalBody [] r
  | _ =>
    let k := cs.takeWhile isBareKeyChar
    if k.isEmpty then none else some (String.ofList k, cs.drop k.length)

/-- A comment after its `#`, up to the end of the line. -/
def comment : List Char → Option (List Char)
  | [] => some []
  | cs@('\n' :: _) => some cs
  | cs@('\r' :: '\n' :: _) => some cs
  | c :: r => if isForbidden c then none else comment r

/-- The end of a line: blanks, an optional comment, then a newline or the end of the text. -/
def lineEnd (cs : List Char) : Option (List Char) :=
  let cs := skipBlanks cs
  let cs := match cs with
    | '#' :: r => comment r
    | _ => some cs
  cs.bind fun
    | [] => some []
    | '\n' :: r => some r
    | '\r' :: '\n' :: r => some r
    | _ => none

/-- The pairs of a document, one line at a time; `fuel` bounds the lines read. -/
def lines : Nat → List Char → List (String × Scalar) → Option (List (String × Scalar))
  | 0, _, _ => none
  | fuel + 1, cs, acc =>
    match skipBlanks cs with
    | [] => some acc.reverse
    | '\n' :: r => lines fuel r acc
    | '\r' :: '\n' :: r => lines fuel r acc
    | '#' :: r => (comment r).bind fun rest => lines fuel rest acc
    | '[' :: _ => none
    | rest =>
      (key rest).bind fun (k, afterKey) =>
        match skipBlanks afterKey with
        | '=' :: afterEq =>
          (value (skipBlanks afterEq)).bind fun (v, afterValue) =>
            (lineEnd afterValue).bind fun next => lines fuel next ((k, v) :: acc)
        | _ => none

/-- The pairs of a flat document in order, or nothing if the text is not one. A byte order mark
    at the start is not part of the document. -/
def readFlat (s : String) : Option (List (String × Scalar)) :=
  let cs := match s.toList with
    | '\uFEFF' :: rest => rest
    | all => all
  lines (cs.length + 1) cs []

end Affinity.Toml
