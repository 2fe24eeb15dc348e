/-!
# Tokens of Python source

The units that the grammar is written in.  Indentation is part of them: a line that is indented further than the one
before opens with `indent`, and one that is indented less with as many `dedent` as blocks end.  A text that cannot be
cut into tokens ends with the fault at which the cutting stopped, so that a reader that stops before it never sees
the fault.
-/

namespace Docsmith.Source

/-- Why the cutting of a text into tokens stopped. -/
inductive LexFault where
  /-- A token that is malformed by itself, or a bracket that does not match. -/
  | malformed
  /-- The text ends inside brackets, or a line continuation has no line to go on with. -/
  | unfinished
  /-- Tabs and blanks are mixed so that the indentation depends on the width of a tab. -/
  | mixedTabs
  /-- A line is indented less than its block and matches no outer block. -/
  | unindent
  /-- Too many blocks in each other. -/
  | tooDeep
  deriving DecidableEq, Repr

/-- The kinds of tokens. -/
inductive Kind where
  /-- A name or a keyword. -/
  | name
  /-- A number; whether it is imaginary, and whether it is an integer with too many decimal digits. -/
  | number (imaginary tooLong : Bool)
  /-- A string: the text between its quotes.  The letters before the quotes are the token's text. -/
  | string (body : List Char)
  | newline
  | indent
  | dedent
  /-- An operator or delimiter. -/
  | op
  /-- A character that no token of the grammar has. -/
  | unknown
  /-- The end of the text. -/
  | finish
  | fault (f : LexFault)
  deriving DecidableEq, Repr

/-- A token: its kind and its text. -/
structure Token where
  kind : Kind
  text : List Char
  deriving DecidableEq, Repr

instance : Inhabited Token := ⟨⟨.finish, []⟩⟩

/-- The words that cannot be names. -/
def keywords : List String :=
  ["False", "None", "True", "and", "as", "assert", "async", "await", "break", "class", "continue", "def", "del",
   "elif", "else", "except", "finally", "for", "from", "global", "if", "import", "in", "is", "lambda", "nonlocal",
   "not", "or", "pass", "raise", "return", "try", "while", "with", "yield"]

end Docsmith.Source
