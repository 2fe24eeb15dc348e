import Docsmith.Text.Printable

/-!
# Quoted texts

A text in quotes as it stands in a message: single quotes, or double ones if the text has a single quote and no
double one.  The quote in use and the backslash are escaped, so are the characters that are not printable.
-/

namespace Docsmith.Text

/-- A number in hexadecimal digits, filled up with zeros to a width. -/
def hexDigits (width n : Nat) : List Char :=
  let digits := Nat.toDigits 16 n
  List.replicate (width - digits.length) '0' ++ digits

/-- A character inside the quotes `q`. -/
def quotedChar (q c : Char) : List Char :=
  if c = q ∨ c = '\\' then ['\\', c]
  else if c = '\t' then ['\\', 't']
  else if c = '\n' then ['\\', 'n']
  else if c = '\r' then ['\\', 'r']
  else if isPrintable c then [c]
  else if c.toNat < 0x100 then '\\' :: 'x' :: hexDigits 2 c.toNat
  else if c.toNat < 0x10000 then '\\' :: 'u' :: hexDigits 4 c.toNat
  else '\\' :: 'U' :: hexDigits 8 c.toNat

/-- The text in quotes. -/
def quoted (s : List Char) : List Char :=
  let q := if s.contains '\'' && !s.contains '"' then '"' else '\''
  q :: s.flatMap (quotedChar q) ++ [q]

end Docsmith.Text
