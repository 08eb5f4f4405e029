/-!
Blank characters and trimming.

`isBlank` is the Unicode White_Space property (twenty-five code points); `trim` drops blank
characters at both ends of a text. Zero-width characters such as U+200B are not blank, so a
text made of them survives trimming.
-/

namespace Affinity.Text

/-- The Unicode White_Space property. -/
def isBlank (c : Char) : Bool :=
  let n := c.toNat
  (0x09 ≤ n && n ≤ 0x0D) || n == 0x20 || n == 0x85 || n == 0xA0 || n == 0x1680 ||
    (0x2000 ≤ n && n ≤ 0x200A) || n == 0x2028 || n == 0x2029 || n == 0x202F ||
    n == 0x205F || n == 0x3000

/-- Drops blank characters at both ends of a list of characters. -/
def trimChars (cs : List Char) : List Char :=
  ((cs.dropWhile isBlank).reverse.dropWhile isBlank).reverse

/-- Drops blank characters at both ends of a text. -/
def trim (s : String) : String :=
  String.ofList (trimChars s.toList)

/-- A text is blank when trimming leaves nothing. -/
def IsBlankText (s : String) : Prop :=
  trimChars s.toList = []

instance (s : String) : Decidable (IsBlankText s) :=
  inferInstanceAs (Decidable (trimChars s.toList = []))

end Affinity.Text
