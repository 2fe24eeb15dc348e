/-!
# Blank characters

The characters that count as blank when a text is trimmed: Unicode's white space together with the four
information separators U+001C to U+001F.  The zero width space and the byte order mark are not blank.
-/

namespace Docsmith.Text

/-- The blank characters as inclusive ranges of code points, in increasing order. -/
def blankRanges : List (Nat × Nat) :=
  [(0x09, 0x0D), (0x1C, 0x20), (0x85, 0x85), (0xA0, 0xA0), (0x1680, 0x1680), (0x2000, 0x200A),
   (0x2028, 0x2029), (0x202F, 0x202F), (0x205F, 0x205F), (0x3000, 0x3000)]

/-- Whether a character is blank. -/
def isBlank (c : Char) : Bool :=
  blankRanges.any fun r => r.1 ≤ c.toNat && c.toNat ≤ r.2

/-- Drops the blank characters at the start. -/
def trimLeft (s : List Char) : List Char :=
  s.dropWhile isBlank

/-- Drops the blank characters at the end. -/
def trimRight (s : List Char) : List Char :=
  (s.reverse.dropWhile isBlank).reverse

/-- Drops the blank characters at both ends. -/
def trim (s : List Char) : List Char :=
  trimRight (trimLeft s)

end Docsmith.Text
