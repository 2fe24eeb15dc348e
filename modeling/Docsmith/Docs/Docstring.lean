import Docsmith.Source.Outline
import Docsmith.Text.Blank
import Docsmith.Text.Search

/-!
# Docstrings

The docstring of a body is the text of its first statement, without the margin that it has in the source:
`cleanText` widens tabs, removes the blanks that all lines but the first have in front, and drops the empty lines at
both ends.
-/

namespace Docsmith.Docs

/-- Widens tabs to the next multiple of eight columns. -/
def expandTabs (column : Nat) : List Char → List Char
  | [] => []
  | c :: s =>
    if c == '\t' then List.replicate (8 - column % 8) ' ' ++ expandTabs 0 s
    else if c == '\n' || c == '\r' then c :: expandTabs 0 s
    else c :: expandTabs (column + 1) s

/-- The width of the blanks in front of a line that is not blank. -/
def indentOf? (line : List Char) : Option Nat :=
  let content := Text.trimLeft line
  if content.isEmpty then none else some (line.length - content.length)

/-- The least indentation of the lines that are not blank; zero if there are none. -/
def commonMargin (lines : List (List Char)) : Nat :=
  ((lines.filterMap indentOf?).min?).getD 0

/-- Drops the empty lines at both ends. -/
def dropEmptyEnds (lines : List (List Char)) : List (List Char) :=
  ((lines.dropWhile List.isEmpty).reverse.dropWhile List.isEmpty).reverse

/-- A docstring without its margin. -/
def cleanText (text : List Char) : List Char :=
  match Text.splitOn ['\n'] (expandTabs 0 text) with
  | [] => []
  | first :: more =>
    let margin := commonMargin more
    Text.join ['\n'] (dropEmptyEnds (Text.trimLeft first :: more.map (·.drop margin)))

/-- The docstring of a body. -/
def docstring? : List Source.Stmt → Option (List Char)
  | .expression (some text) :: _ => some (cleanText text)
  | _ => none

/-- Puts a backslash before every angle bracket. -/
def escapeAngles (s : List Char) : List Char :=
  Text.replaceAll ['>'] ['\\', '>'] (Text.replaceAll ['<'] ['\\', '<'] s)

end Docsmith.Docs
