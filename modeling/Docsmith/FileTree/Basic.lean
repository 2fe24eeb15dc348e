import Docsmith.Fields

/-!
# Trees of files

A tree has files, which hold bytes, and folders, which hold named trees.  The entries of a folder stand in the order
in which the folder is listed.  That order is any order: a tree is not only what is in its folders but also how they are
listed, and two trees with the same files may differ in it.  A new entry comes before the first one with a greater name
and leaves the others in their order.  A place in a tree is the list of the names on the way to it.
-/

namespace Docsmith

/-- A file, or a folder with its entries in the order in which they are listed. -/
inductive FileTree where
  | file (bytes : List Nat)
  | folder (entries : List (String × FileTree))
  deriving Inhabited

namespace FileTree

/-- The empty folder. -/
def empty : FileTree := .folder []

/-- Whether a tree is a file. -/
def isFile : FileTree → Bool
  | .file _ => true
  | .folder _ => false

/-- The entries of a folder in the order in which they are listed; a file has none. -/
def entries : FileTree → Fields FileTree
  | .file _ => []
  | .folder es => es

/-- The entry of a folder under a name. -/
def child? (name : String) (t : FileTree) : Option FileTree := Fields.get? name t.entries

/-- The tree at a place. -/
def at? : List String → FileTree → Option FileTree
  | [], t => some t
  | name :: place, t => (t.child? name).bind (at? place)

/-- Adds an entry before the first one with a greater name. -/
def insert (name : String) (t : FileTree) : Fields FileTree → Fields FileTree
  | [] => [(name, t)]
  | e :: es => if name < e.1 then (name, t) :: e :: es else e :: insert name t es

/-- Enters a tree under a name: where the entry of that name stands, if there is one, else as a new entry. -/
def enter (name : String) (t : FileTree) (es : Fields FileTree) : Fields FileTree :=
  if es.has name then es.put name t else insert name t es

/-- Puts a tree at a place, and makes the folders on the way that are missing. -/
def put : List String → FileTree → FileTree → FileTree
  | [], _, new => new
  | name :: place, t, new =>
    .folder (enter name (put place ((t.child? name).getD empty) new) t.entries)

/-- Removes what is at a place. -/
def erase : List String → FileTree → FileTree
  | [], t => t
  | [name], t => .folder (t.entries.filter fun e => e.1 != name)
  | name :: place, t =>
    match t.child? name with
    | some sub => .folder (Fields.put name (erase place sub) t.entries)
    | none => t

mutual

/-- The files of a tree with their places. -/
def files : FileTree → List (List String × List Nat)
  | .file bytes => [([], bytes)]
  | .folder es => filesIn es

/-- The files of the entries of a folder with their places. -/
def filesIn : List (String × FileTree) → List (List String × List Nat)
  | [] => []
  | (name, t) :: es => (files t).map (fun f => (name :: f.1, f.2)) ++ filesIn es

end

end FileTree

end Docsmith
