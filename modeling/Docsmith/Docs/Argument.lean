import Docsmith.Text.Blank

/-!
# Argument lines

A line `name (type): description` of an argument section.  The line is cut at the last `): ` that has a text after
it, and what stands before at the last ` (` with a text on both sides, so the name and the type take as much as they
can.
-/

namespace Docsmith.Docs

/-- Cuts at the last occurrence of `mark` at which `fits` holds of the parts before and after; `before` holds the
characters passed so far, in reverse. -/
def cutLast (mark : List Char) (fits : List Char → List Char → Bool) (before : List Char) :
    List Char → Option (List Char × List Char)
  | [] => none
  | c :: s =>
    match cutLast mark fits (c :: before) s with
    | some cut => some cut
    | none =>
      let after := (c :: s).drop mark.length
      if mark.isPrefixOf (c :: s) && fits before.reverse after then some (before.reverse, after) else none

/-- An entry of an argument section. -/
structure Argument where
  name : List Char
  type : List Char
  description : List Char
  deriving DecidableEq, Repr

namespace Argument

/-- The entry that a line writes; `none` if the line goes on with the entry before. -/
def ofLine? (line : List Char) : Option Argument := do
  let (head, description) ← cutLast "): ".toList (fun _ after => !after.isEmpty) [] line
  let (name, type) ← cutLast " (".toList (fun before after => !before.isEmpty && !after.isEmpty) [] head
  return ⟨name, type, description⟩

/-- The entry as list items. -/
def render (a : Argument) : List Char :=
  "\n- ".toList ++ a.name ++ "\n  - Type: ".toList ++ a.type ++ "\n  - ".toList ++ Text.trim a.description

end Argument

/-- A line of an argument section: a new entry, or a further part of the one before. -/
def renderArgumentLine (line : List Char) : List Char :=
  match Argument.ofLine? line with
  | some a => a.render
  | none => ' ' :: Text.trim line

end Docsmith.Docs
