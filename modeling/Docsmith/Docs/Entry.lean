import Docsmith.Docs.Docstring
import Docsmith.Docs.Markdown
import Docsmith.Value.Basic

/-!
# Entries of a module

What the documentation says about a source: its docstring, its classes with their functions, and its functions.
Functions inside other functions or statements, and asynchronous ones, have no entry.  A function that has an entry
must have a docstring.
-/

namespace Docsmith.Docs

/-- A function and its docstring, with angle brackets escaped. -/
structure FunctionEntry where
  name : List Char
  docstring : List Char
  deriving DecidableEq, Repr

/-- A class, its docstring and its functions. -/
structure ClassEntry where
  name : List Char
  docstring : Option (List Char)
  functions : List FunctionEntry
  deriving DecidableEq, Repr

/-- A module, its docstring, classes and functions. -/
structure ModuleEntry where
  docstring : Option (List Char)
  classes : List ClassEntry
  functions : List FunctionEntry
  deriving DecidableEq, Repr

/-- The entry of a function. -/
def FunctionEntry.ofBody (name : List Char) (body : List Source.Stmt) : Outcome FunctionEntry :=
  match docstring? body with
  | some d => .ok ⟨name, escapeAngles d⟩
  | none => .error (.noAttribute "NoneType" "replace")

/-- The entries of the functions among statements. -/
def functionEntries : List Source.Stmt → Outcome (List FunctionEntry)
  | [] => .ok []
  | .function false name body :: rest => do
    let f ← FunctionEntry.ofBody name body
    let fs ← functionEntries rest
    .ok (f :: fs)
  | _ :: rest => functionEntries rest

/-- The entry of a class. -/
def ClassEntry.ofBody (name : List Char) (body : List Source.Stmt) : Outcome ClassEntry := do
  let functions ← functionEntries body
  .ok ⟨name, docstring? body, functions⟩

/-- The entries of the classes among statements. -/
def classEntries : List Source.Stmt → Outcome (List ClassEntry)
  | [] => .ok []
  | .classDef name body :: rest => do
    let c ← ClassEntry.ofBody name body
    let cs ← classEntries rest
    .ok (c :: cs)
  | _ :: rest => classEntries rest

/-- The entry of a module. -/
def ModuleEntry.ofBody (body : List Source.Stmt) : Outcome ModuleEntry := do
  let classes ← classEntries body
  let functions ← functionEntries body
  .ok ⟨docstring? body, classes, functions⟩

/-- The entry of a source text. -/
def ModuleEntry.ofSource (text : List Char) : Outcome ModuleEntry := do
  ModuleEntry.ofBody (← Source.outline text)

/-- A text as a value. -/
def textValue (s : List Char) : Value := .text (String.ofList s)

/-- A text that may be missing as a value. -/
def optionalText : Option (List Char) → Value
  | some s => textValue s
  | none => .null

/-- The record of a function. -/
def FunctionEntry.toValue (f : FunctionEntry) : Value :=
  .record [("name", textValue f.name), ("type", .text "func"), ("docstring", textValue f.docstring)]

/-- The record of a class. -/
def ClassEntry.toValue (c : ClassEntry) : Value :=
  .record
    [("name", textValue c.name), ("type", .text "class"), ("docstring", optionalText c.docstring),
     ("func_children", .list (c.functions.map FunctionEntry.toValue))]

/-- The fields of a module's record. -/
def ModuleEntry.toFields (m : ModuleEntry) : Fields Value :=
  [("type", .text "module"), ("docstring", optionalText m.docstring),
   ("class_children", .list (m.classes.map ClassEntry.toValue)),
   ("func_children", .list (m.functions.map FunctionEntry.toValue))]

/-- A docstring that is not empty. -/
def nonEmpty? (s : List Char) : Option (List Char) := if s.isEmpty then none else some s

/-- The function as it stands on a page. -/
def FunctionEntry.toDoc (f : FunctionEntry) : FunctionDoc := ⟨f.name, nonEmpty? f.docstring⟩

/-- The class as it stands on a page. -/
def ClassEntry.toDoc (c : ClassEntry) : ClassDoc :=
  ⟨c.name, c.docstring.bind nonEmpty?, c.functions.map FunctionEntry.toDoc⟩

end Docsmith.Docs
