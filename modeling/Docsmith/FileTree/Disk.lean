import Docsmith.FileTree.Basic
import Docsmith.Value.Access

/-!
# Paths on a disk

A disk is a tree with a current folder.  A path is read part by part between its slashes: from the root if it starts
with one, else from the current folder.  An empty part and `.` stay, `..` goes up, and each of them needs a folder to
stand on; so `a/` fails if `a` is a file.
-/

namespace Docsmith

namespace Path

/-- The parts of a path between its slashes. -/
def parts (path : String) : List String := (Text.splitOn ['/'] path.toList).map String.ofList

/-- Whether a path starts at the root. -/
def isAbsolute (path : String) : Bool := ['/'].isPrefixOf path.toList

/-- A path followed by a relative one. -/
def join (path next : String) : String :=
  if path = "" then next
  else if path.toList.getLast? = some '/' then path ++ next
  else path ++ "/" ++ next

/-- The path from the root to a place. -/
def ofPlace (place : List String) : String := "/" ++ "/".intercalate place

/-- The place that a path from the root names, if there are folders all the way. -/
def toPlace (path : String) : List String := (parts path).foldl step []
where
  /-- The place after one more part. -/
  step (place : List String) (part : String) : List String :=
    if part = "" ∨ part = "." then place
    else if part = ".." then place.dropLast
    else place ++ [part]

/-- How many names two places have in common at their start. -/
def common : List String → List String → Nat
  | a :: as, b :: bs => if a = b then common as bs + 1 else 0
  | _, _ => 0

/-- The way from a folder to a path, both from the root. -/
def relativeTo (folder path : String) : String :=
  let start := toPlace folder
  let place := toPlace path
  let shared := common start place
  let way := List.replicate (start.length - shared) ".." ++ place.drop shared
  if way.isEmpty then "." else "/".intercalate way

end Path

/-- A tree and the place of its current folder. -/
structure Disk where
  tree : FileTree
  current : List String

namespace Disk

/-- The place that the parts of a path lead to.  `path` is the whole path, for faults. -/
def walk (disk : Disk) (path : String) : List String → List String → Outcome (List String)
  | place, [] => .ok place
  | place, part :: parts =>
    match disk.tree.at? place with
    | none => .error (.notFound path)
    | some (.file _) => .error (.notDirectory path)
    | some t =>
      if part = "" ∨ part = "." then walk disk path place parts
      else if part = ".." then walk disk path place.dropLast parts
      else if (t.child? part).isSome then walk disk path (place ++ [part]) parts
      else .error (.notFound path)

/-- Where the reading of a path starts. -/
def start (disk : Disk) (path : String) : List String := if Path.isAbsolute path then [] else disk.current

/-- The tree at the end of a path. -/
def node (disk : Disk) (path : String) : Outcome FileTree :=
  if path = "" then .error (.notFound path)
  else if path.toList.contains '\x00' then .error .badValue
  else do
    let place ← disk.walk path (disk.start path) (Path.parts path)
    match disk.tree.at? place with
    | some t => .ok t
    | none => .error (.notFound path)

/-- Whether there is a file at the end of a path. -/
def isFile (disk : Disk) (path : String) : Bool :=
  match disk.node path with
  | .ok t => t.isFile
  | .error _ => false

/-- The bytes of a tree that is a file. -/
def bytesOf (path : String) : FileTree → Outcome (List Nat)
  | .file bytes => .ok bytes
  | .folder _ => .error (.isDirectory path)

/-- The entries of a tree that is a folder. -/
def entriesOf (path : String) : FileTree → Outcome (Fields FileTree)
  | .file _ => .error (.notDirectory path)
  | .folder es => .ok es

/-- Writes a file into the folder at a path. -/
def write (disk : Disk) (folder name : String) (bytes : List Nat) : Outcome Disk :=
  let path := Path.join folder name
  if path.toList.contains '\x00' then .error .badValue
  else do
    let place ← disk.walk path (disk.start path) (Path.parts path).dropLast
    match disk.tree.at? place with
    | none => .error (.notFound path)
    | some (.file _) => .error (.notDirectory path)
    | some t =>
      match t.child? name with
      | some (.folder _) => .error (.isDirectory path)
      | _ => .ok { disk with tree := disk.tree.put (place ++ [name]) (.file bytes) }

/-- Makes the folder at a path from the root the current one. -/
def enter (disk : Disk) (path : String) : Outcome Disk := do
  let t ← disk.node path
  let _ ← entriesOf path t
  .ok { disk with current := Path.toPlace path }

/-- Makes a folder at a path from the root, and those on the way. -/
def makeFolder (disk : Disk) (path : String) : Disk :=
  let place := Path.toPlace path
  { disk with tree := disk.tree.put place ((disk.tree.at? place).getD .empty) }

/-- Makes a file at a path from the root, and the folders on the way. -/
def makeFile (disk : Disk) (path : String) (bytes : List Nat) : Disk :=
  { disk with tree := disk.tree.put (Path.toPlace path) (.file bytes) }

/-- Removes the file or folder at a path from the root. -/
def remove (disk : Disk) (path : String) : Outcome Disk := do
  let _ ← disk.node path
  .ok { disk with tree := disk.tree.erase (Path.toPlace path) }

end Disk

end Docsmith
