/-!
Masking ports that the operating system chose.

Ports handed out to listeners (and to closed-port pools) are not reproducible, so every text
of a scenario answer writes them as `<port>`: a colon followed by the digits of such a port
becomes `:<port>`, and `port: ` followed by them becomes `port: <port>`. Only a whole run of
digits is replaced, never the start of a longer number.
-/

namespace Affinity.Scenario

/-- The placeholder written for a masked port. -/
def portMark : List Char := "<port>".toList

/-- The value of a run of ASCII digits. -/
def digitRunValue (ds : List Char) : Nat :=
  ds.foldl (fun n c => n * 10 + (c.toNat - '0'.toNat)) 0

/-- Replaces a chosen port written right after a colon; `fuel` bounds the characters read. -/
def maskChars (ports : List Nat) : Nat → List Char → List Char
  | 0, cs => cs
  | _, [] => []
  | fuel + 1, c :: rest =>
    if c = ':' then
      let ds := rest.takeWhile Char.isDigit
      if !ds.isEmpty && ports.contains (digitRunValue ds) then
        ':' :: portMark ++ maskChars ports fuel (rest.dropWhile Char.isDigit)
      else c :: maskChars ports fuel rest
    else c :: maskChars ports fuel rest

/-- Replaces `port: ` followed by a masked port. -/
def maskLabelled (ports : List Nat) : Nat → List Char → List Char
  | 0, cs => cs
  | _, [] => []
  | fuel + 1, cs@(c :: rest) =>
    let label := "port: ".toList
    if label.isPrefixOf cs then
      let after := cs.drop label.length
      let ds := after.takeWhile Char.isDigit
      if !ds.isEmpty && ports.contains (digitRunValue ds) then
        label ++ portMark ++ maskLabelled ports fuel (after.dropWhile Char.isDigit)
      else c :: maskLabelled ports fuel rest
    else c :: maskLabelled ports fuel rest

/-- A text with every chosen port masked. -/
def maskPorts (ports : List Nat) (s : String) : String :=
  if ports.isEmpty then s
  else
    let cs := s.toList
    let cs := maskLabelled ports (cs.length + 1) cs
    String.ofList (maskChars ports (cs.length + 1) cs)

end Affinity.Scenario
