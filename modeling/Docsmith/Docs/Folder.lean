import Docsmith.Docs.Entry
import Docsmith.FileTree.Disk
import Docsmith.Text.Lines

/-!
# Records of files and folders

The record of a folder has the records of its sources and folders under their names, beside the fields `name`, `type`,
`_folders` and `_files`; a later field replaces an earlier one of the same name.  Sources and folders come in the
order in which the folder is listed.  A source is an entry with `.py` in its name.  Every other entry counts as a
folder, unless it has the name of a file in the current folder or is one of those never documented; such an entry that
is a file is a fault.
-/

namespace Docsmith.Docs

/-- The folders that are never documented. -/
def ignoredFolders : List String := ["__pycache__", "ignore_dir", ".git", "env", ".vscode"]

/-- Whether an entry is taken for a source. -/
def isSourceName (name : String) : Bool := Text.occursIn ".py".toList name.toList

/-- The text that bytes encode, with all line ends made alike. -/
def readText (bytes : List Nat) : Outcome (List Char) :=
  match Text.Utf8.decode bytes with
  | .ok s => .ok (Text.unifyLines s)
  | .error failure => .error (.undecodable failure)

/-- The record of the source at a path. -/
def sourceRecord (path : String) (t : FileTree) : Outcome Value := do
  let text ← readText (← Disk.bytesOf path t)
  let m ← ModuleEntry.ofSource text
  .ok (.record (m.toFields.put "name" (.text path)))

/-- The record of the source at a path on a disk. -/
def sourceRecordAt (disk : Disk) (path : String) : Outcome Value := do
  sourceRecord path (← disk.node path)

/-- Adds the records of a table under the given names, in order. -/
def addRecords (path : String) (records : Fields (Outcome Value)) :
    List String → Fields Value → Outcome (Fields Value)
  | [], fields => .ok fields
  | name :: names, fields =>
    match records.get? name with
    | some record => do
      let v ← record
      addRecords path records names (fields.put name v)
    | none => .error (.notFound (Path.join path name))

/-- Whether an entry is taken for a folder to document; `isHidden` tells the names of files in the current
folder. -/
def isFolderName (isHidden : String → Bool) (name : String) : Bool :=
  !(isHidden name || isSourceName name) && !ignoredFolders.contains name

/-- The records of the sources among the entries of a folder. -/
def sourceRecords (path : String) (es : Fields FileTree) : Fields (Outcome Value) :=
  (es.filter fun e => isSourceName e.1).map fun e => (e.1, sourceRecord (Path.join path e.1) e.2)

mutual

/-- The record of the folder at a path. -/
def folderRecord (isHidden : String → Bool) (path : String) : FileTree → Outcome Value
  | .file _ => .error (.notDirectory path)
  | .folder es => do
    let names := Fields.names es
    let folders := names.filter (isFolderName isHidden)
    let sources := names.filter isSourceName
    let fields ← addRecords path (sourceRecords path es) sources [("name", .text path), ("type", .text "folder")]
    let fields ← addRecords path (folderRecords isHidden path es) folders fields
    let fields := fields.put "_folders" (.list (folders.map .text))
    .ok (.record (fields.put "_files" (.list (sources.map .text))))

/-- The records of the folders among the entries of a folder. -/
def folderRecords (isHidden : String → Bool) (path : String) :
    List (String × FileTree) → List (String × Outcome Value)
  | [] => []
  | (name, t) :: es =>
    if isFolderName isHidden name then
      (name, folderRecord isHidden (Path.join path name) t) :: folderRecords isHidden path es
    else folderRecords isHidden path es

end

/-- The record of the folder at a path on a disk. -/
def folderRecordAt (disk : Disk) (path : String) : Outcome Value := do
  folderRecord disk.isFile path (← disk.node path)

end Docsmith.Docs
