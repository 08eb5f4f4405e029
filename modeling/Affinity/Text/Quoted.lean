import Affinity.Text.CharClass
/-!
Quoted texts, as the messages of this library write them.

A quoted text is a double quote, the characters of the text, and a double quote. Inside,
`\0`, `\t`, `\r`, `\n`, the backslash and the double quote are written with a backslash;
marks that extend a grapheme and characters that are not printable are written as
`\u{…}` with the code point in lowercase hexadecimal and no leading zeros. Every other
character, the single quote included, stands for itself. A single character is quoted the
same way between single quotes, where the single quote takes the backslash instead.
-/

namespace Affinity.Text

/-- Lowercase hexadecimal digits of a number, without leading zeros. -/
def hexDigits (n : Nat) : String :=
  String.ofList (Nat.toDigits 16 n)

/-- The escape `\u{…}` of a code point. -/
def unicodeEscape (c : Char) : String :=
  "\\u\x7b" ++ hexDigits c.toNat ++ "\x7d"

/-- How one character is written inside a quoted text. -/
def quoteChar (c : Char) : String :=
  if c = '\x00' then "\\0"
  else if c = '\t' then "\\t"
  else if c = '\r' then "\\r"
  else if c = '\n' then "\\n"
  else if c = '\\' then "\\\\"
  else if c = '"' then "\\\""
  else if extendingMarks.contains c.toNat || nonPrintable.contains c.toNat then unicodeEscape c
  else c.toString

/-- The quoted form of a text. -/
def quote (s : String) : String :=
  "\"" ++ String.join (s.toList.map quoteChar) ++ "\""

/-- The quoted form of one character, between single quotes: written as inside a quoted text,
    except that the single quote takes a backslash and the double quote does not. -/
def quoteSingle (c : Char) : String :=
  let body := if c = '\x27' then "\\\x27" else if c = '"' then "\"" else quoteChar c
  "\x27" ++ body ++ "\x27"

end Affinity.Text
