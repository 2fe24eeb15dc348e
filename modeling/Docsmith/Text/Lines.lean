import Docsmith.Text.Search

/-!
# Lines

Two ways to cut a text into lines: at newlines only, after all line ends were made alike, or at every character that
ends a line.
-/

namespace Docsmith.Text

/-- A text with all line ends made alike. -/
def unifyLines : List Char → List Char
  | [] => []
  | '\r' :: '\n' :: s => '\n' :: unifyLines s
  | '\r' :: s => '\n' :: unifyLines s
  | c :: s => c :: unifyLines s

/-- Whether a character ends a line. -/
def endsLine (c : Char) : Bool :=
  let n := c.toNat
  (0x0A ≤ n && n ≤ 0x0D) || (0x1C ≤ n && n ≤ 0x1E) || n == 0x85 || n == 0x2028 || n == 0x2029

/-- The lines of a text.  A line end at the end of the text starts no further line; `acc` holds the current line in
reverse, if there is one. -/
def linesFrom (acc : Option (List Char)) : List Char → List (List Char)
  | [] => (acc.map List.reverse).toList
  | '\r' :: '\n' :: s => (acc.getD []).reverse :: linesFrom none s
  | c :: s =>
    if endsLine c then (acc.getD []).reverse :: linesFrom none s
    else linesFrom (some (c :: acc.getD [])) s

/-- The lines of a text. -/
def lines (s : List Char) : List (List Char) := linesFrom none s

end Docsmith.Text
