/-!
Unsigned machine words written in decimal.

`readWord` accepts an optional plus sign followed by one or more ASCII digits whose value is
below 2^64, and nothing else: no minus sign, no blanks, no digit separators, no other
numeral systems. `wordLimit` is the first value that no longer fits.
-/

namespace Affinity.Text

/-- The first value that does not fit in an unsigned 64-bit word. -/
def wordLimit : Nat := Nat.pow 2 64

/-- The value of a nonempty list of ASCII digits, or nothing if a character is not one. -/
def digitsValue : List Char → Option Nat
  | [] => none
  | c :: cs =>
    cs.foldl (fun acc d => acc.bind fun v => if d.isDigit then some (v * 10 + (d.toNat - 48)) else none)
      (if c.isDigit then some (c.toNat - 48) else none)

/-- Reads an unsigned 64-bit word: an optional `+` and ASCII digits, value below 2^64. -/
def readWord (s : String) : Option Nat :=
  let cs := match s.toList with
    | '+' :: rest => rest
    | all => all
  match digitsValue cs with
  | some v => if v < wordLimit then some v else none
  | none => none

end Affinity.Text
