/-!
# Blank characters and trimming

A character is blank when it has the Unicode property `White_Space`. Trimming removes the blanks
at the two ends of a text and nothing inside it.
-/

namespace RevisionControl.Text

/-- The characters with the property `White_Space`. The zero-width space and the information
separators are not among them. -/
def isBlank (c : Char) : Bool :=
  let n := c.toNat
  (0x9 ≤ n && n ≤ 0xd) || n == 0x20 || n == 0x85 || n == 0xa0 || n == 0x1680 ||
    (0x2000 ≤ n && n ≤ 0x200a) || n == 0x2028 || n == 0x2029 || n == 0x202f || n == 0x205f ||
    n == 0x3000

/-- Drops the blanks at the end. -/
def trimEnd (cs : List Char) : List Char :=
  (cs.reverse.dropWhile isBlank).reverse

/-- Drops the blanks at both ends. -/
def trimChars (cs : List Char) : List Char :=
  trimEnd (cs.dropWhile isBlank)

/-- A text without the blanks at its two ends. -/
def trim (s : String) : String :=
  String.ofList (trimChars s.toList)

/-- A text with nothing but blanks in it. -/
def isBlankText (s : String) : Bool :=
  (trimChars s.toList).isEmpty

end RevisionControl.Text
