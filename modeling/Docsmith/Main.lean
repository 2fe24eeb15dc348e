import Docsmith.Docs.Page

/-!
# Command line

Documents the current folder and the folders in it.  Everything is decided by `Docs.folderRecordAt` and `Docs.draft`;
here the tree is read and the pages are written.
-/

namespace Docsmith.Main

/-- Reads the tree at an entry of a folder. -/
partial def readEntry (entry : IO.FS.DirEntry) : IO (String × FileTree) := do
  if ← entry.path.isDir then
    return (entry.fileName, .folder (← (← entry.path.readDir).toList.mapM readEntry))
  else
    return (entry.fileName, .file ((← IO.FS.readBinFile entry.path).toList.map (·.toNat)))

/-- A disk that holds the entries of one folder, in which it works. -/
def diskOf (path : String) (entries : Fields FileTree) : Disk :=
  ⟨FileTree.empty.put (Path.toPlace path) (.folder entries), Path.toPlace path⟩

/-- Reports a fault. -/
def report (fault : Fault) : IO UInt32 := do
  IO.eprintln (fault.kind ++ ": " ++ String.ofList (fault.message?.getD []))
  return 1

/-- Writes the pages of the current folder. -/
def run : IO UInt32 := do
  let folder ← IO.currentDir
  let path := folder.toString
  let disk := diskOf path (← (← folder.readDir).toList.mapM readEntry)
  match Docs.folderRecordAt disk path with
  | .error fault => report fault
  | .ok record =>
    let draft := Docs.draft record (.text path)
    for page in draft.pages do
      IO.FS.writeFile (Path.join page.folder Docs.pageName) (String.ofList page.text)
    match draft.fault? with
    | some fault => report fault
    | none => return 0

end Docsmith.Main

/-- Documents the current folder. -/
def main : IO UInt32 := Docsmith.Main.run
