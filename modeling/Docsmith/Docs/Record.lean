import Docsmith.Docs.Markdown
import Docsmith.Value.Access

/-!
# Documentation records

Functions and classes read from loosely typed records.  The parts of a record are looked up in the order in which
they stand on the page, so that of several faults the first on the page is reported.
-/

namespace Docsmith.Docs

/-- Whether a text starts with one of the members of a value. -/
def startsWithElement (s marks : Value) : Outcome Bool := do
  let marks ← marks.elements
  go marks
where
  /-- Tries the marks in turn. -/
  go : List Value → Outcome Bool
    | [] => .ok false
    | m :: ms => do
      let s ← s.textWith "startswith"
      match m with
      | .text m => if m.toList.isPrefixOf s.toList then .ok true else go ms
      | _ => .error .wrongType

/-- The function of a record. -/
def FunctionDoc.ofValue (v : Value) : Outcome FunctionDoc := do
  let name ← v.field "name"
  let doc ← v.getOr (.text "docstring") .null
  if doc.truthy then
    let text ← doc.textWith "split"
    return ⟨name.display, some text.toList⟩
  else return ⟨name.display, none⟩

/-- The functions of a list of records. -/
def functionsOf (v : Value) : Outcome (List FunctionDoc) := do
  let items ← v.elements
  items.mapM FunctionDoc.ofValue

/-- The class of a record. -/
def ClassDoc.ofValue (v : Value) : Outcome ClassDoc := do
  let name ← v.field "name"
  let doc ← v.getOr (.text "docstring") .null
  let functions ← functionsOf (← v.field "func_children")
  return ⟨name.display, if doc.truthy then some doc.display else none, functions⟩

/-- The classes of a list of records. -/
def classesOf (v : Value) : Outcome (List ClassDoc) := do
  let items ← v.elements
  items.mapM ClassDoc.ofValue

end Docsmith.Docs
