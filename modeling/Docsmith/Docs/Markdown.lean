import Docsmith.Docs.Argument
import Docsmith.Text.Search

/-!
# Markdown of functions and classes

A docstring falls into paragraphs at empty lines.  The first paragraph that names arguments and the first that names
what is returned have sections of their own; the first of the others is the summary and the rest the description.
-/

namespace Docsmith.Docs

/-- What opens an argument section. -/
def argumentMarks : List (List Char) := ["Args:".toList, "Arguments:".toList]

/-- What opens a section on what is returned. -/
def returnMarks : List (List Char) := ["Returns:".toList]

/-- What opens a section on exceptions. -/
def exceptionMarks : List (List Char) := ["Raises:".toList]

/-- What opens any section. -/
def sectionMarks : List (List Char) := argumentMarks ++ returnMarks ++ exceptionMarks

/-- Whether a text starts with one of the marks. -/
def startsWithAny (s : List Char) (marks : List (List Char)) : Bool :=
  marks.any fun m => m.isPrefixOf s

/-- A function with its docstring, if it has one that is not empty. -/
structure FunctionDoc where
  name : List Char
  docstring : Option (List Char)
  deriving DecidableEq, Repr

/-- A class with its docstring and its functions. -/
structure ClassDoc where
  name : List Char
  docstring : Option (List Char)
  functions : List FunctionDoc
  deriving DecidableEq, Repr

/-- The paragraphs of a docstring, without blanks around them. -/
def paragraphs (docstring : List Char) : List (List Char) :=
  (Text.splitOn "\n\n".toList docstring).map Text.trim

/-- The paragraph with its lines put into one. -/
def oneLine (paragraph : List Char) : List Char :=
  Text.replaceAll ['\n'] [' '] paragraph

/-- The summary and the description. -/
def renderProse : List (List Char) → List Char
  | [] => []
  | [summary] => summary ++ ['\n']
  | summary :: more =>
    summary ++ "\n\n#### Description\n".toList ++ Text.join [' '] (more.map oneLine) ++ ['\n']

/-- The lines of an argument section below its mark. -/
def argumentLines (paragraph : List Char) : List (List Char) :=
  ((Text.splitOn ['\n'] paragraph).drop 1).map Text.trim

/-- The section on arguments. -/
def renderArguments : Option (List Char) → List Char
  | some paragraph =>
    "#### Arguments:".toList ++ (argumentLines paragraph).flatMap renderArgumentLine ++ ['\n']
  | none => "#### Arguments:\n_None_\n".toList

/-- The section on what is returned. -/
def renderReturns : Option (List Char) → List Char
  | some paragraph =>
    "#### Returns:\n".toList ++ Text.trim (Text.replaceAll "Returns:\n".toList [] paragraph) ++ ['\n']
  | none => "#### Returns:\n_None_\n".toList

/-- The sections of a docstring. -/
def renderDocstring (docstring : List Char) : List Char :=
  let ps := paragraphs docstring
  renderProse (ps.filter fun p => !startsWithAny p sectionMarks) ++
    renderArguments (ps.find? fun p => startsWithAny p argumentMarks) ++
    renderReturns (ps.find? fun p => startsWithAny p returnMarks)

/-- The Markdown of a function. -/
def FunctionDoc.render (f : FunctionDoc) : List Char :=
  "### Function: `".toList ++ f.name ++ "`\n".toList ++
    (match f.docstring with
      | some d => renderDocstring d
      | none => []) ++ ['\n']

/-- The Markdown of a class and its functions. -/
def ClassDoc.render (c : ClassDoc) : List Char :=
  "### Class: `".toList ++ c.name ++ "`\n".toList ++
    (match c.docstring with
      | some d => d ++ ['\n']
      | none => []) ++ c.functions.flatMap FunctionDoc.render

end Docsmith.Docs
