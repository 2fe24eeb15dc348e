import Docsmith.Docs.Folder
import Docsmith.Docs.Record

/-!
# Pages of folders

Every folder has a page `DOCUMENTATION.md`: what its sources hold, with `__init__.py` first, and links to the pages
of its folders.  The page of a folder is written after those of its folders, and only when its text is complete; so
of a run that fails only complete pages of inner folders are left.
-/

namespace Docsmith.Docs

/-- The name of a page. -/
def pageName : String := "DOCUMENTATION.md"

/-- The source that stands first on a page. -/
def firstSource : String := "__init__.py"

/-- Takes a part away from a name. -/
def without (name part : Value) : Outcome (List Char) := do
  let name ← name.textWith "replace"
  match part with
  | .text part => .ok (Text.replaceAll part.toList [] name.toList)
  | _ => .error .wrongType

/-- The heading of a page. -/
def renderHeading (name base : Value) : Outcome (List Char) := do
  let title := (← without name base).filter (· != '\\')
  .ok ("# Module: `".toList ++ (if title.isEmpty then "Base Directory".toList else title) ++ "`\n".toList)

/-- Moves the first occurrence of a member to the front of a list. -/
def moveToFront (isMember : Value → Bool) (items : List Value) : List Value :=
  match items.find? isMember with
  | some v => v :: items.eraseP isMember
  | none => items

/-- The list of sources with the one that stands first on the page in front. -/
def orderSources (sources : Value) : Outcome Value :=
  match sources with
  | .list items => .ok (.list (moveToFront (fun v => v.same (.text firstSource)) items))
  | .text s => if Text.occursIn firstSource.toList s.toList then .error .wrongType else .ok sources
  | _ => .error (.noAttribute sources.typeName "index")

/-- The section of a source. -/
def renderSource (info name : Value) : Outcome (List Char) := do
  let source ← info.item name
  let doc ← source.field "docstring"
  let functions ← functionsOf (← source.field "func_children")
  let classes ← classesOf (← source.field "class_children")
  .ok ("## File: `".toList ++ name.display ++ "`\n".toList ++
    (if doc.truthy then doc.display ++ ['\n'] else []) ++
    functions.flatMap FunctionDoc.render ++ classes.flatMap ClassDoc.render)

/-- The sections of the sources. -/
def renderSources (info sources : Value) : Outcome (List Char) := do
  let sections ← (← sources.elements).mapM (renderSource info)
  .ok sections.flatten

/-- The link from the page of a folder to the page of a folder in it. -/
def renderLink (base name inner : Value) : Outcome (List Char) := do
  let way ← without inner name
  let link := (Path.join (String.ofList way) pageName).toList.map fun c => if c = '\\' then '/' else c
  let link := if ['/'].isPrefixOf link then link.drop 1 else link
  .ok ("- [".toList ++ (← without inner base) ++ "](".toList ++ link ++ ")\n".toList)

/-- A page: its text, and the folder that it is written to. -/
structure Page where
  folder : String
  text : List Char
  deriving DecidableEq, Repr

/-- What a run over a record comes to: the pages to write, in order, the record with its sources ordered, and the
fault that ends the run after those pages, if there is one. -/
structure Draft where
  pages : List Page
  record : Value
  fault? : Option Fault

/-- A record with one part replaced. -/
def setPart (key part : Value) : Value → Value
  | .record fields =>
    match key with
    | .text name => .record (Fields.put name part fields)
    | _ => .record fields
  | v => v

/-- The pages of the folders in a folder, and the links to them.  `inner` drafts the folder under each name. -/
def draftFolders (inner : Fields (Value → Draft)) (base name : Value) : List Value → Value → Draft × List Char
  | [], record => (⟨[], record, none⟩, [])
  | folder :: folders, record =>
    match Value.lookup inner folder with
    | .error fault => (⟨[], record, some fault⟩, [])
    | .ok draftFolder =>
      let sub := draftFolder name
      let record := setPart folder sub.record record
      match sub.fault? with
      | some fault => (⟨sub.pages, record, some fault⟩, [])
      | none =>
        match sub.record.field "name" >>= renderLink base name with
        | .error fault => (⟨sub.pages, record, some fault⟩, [])
        | .ok link =>
          let (rest, links) := draftFolders inner base name folders record
          (⟨sub.pages ++ rest.pages, rest.record, rest.fault?⟩, link ++ links)

/-- The pages of the folders in a folder, the links to them under their heading, and then the page of the folder
itself, which starts with `top`. -/
def draftPage (inner : Fields (Value → Draft)) (base name : Value) (top : List Char) (record : Value) : Draft :=
  let folders := do
    let folders ← record.field "_folders"
    if folders.truthy then folders.elements.map some else .ok none
  match folders, name with
  | .error fault, _ => ⟨[], record, some fault⟩
  | .ok none, .text path => ⟨[⟨path, top⟩], record, none⟩
  | .ok (some folders), .text path =>
    let (sub, links) := draftFolders inner base name folders record
    match sub.fault? with
    | some _ => sub
    | none => { sub with pages := sub.pages ++ [⟨path, top ++ "## Subdirectory Links:\n".toList ++ links⟩] }
  | _, _ => ⟨[], record, some .wrongType⟩

mutual

/-- The pages of a folder's record; `base` is taken away from the names on the folder's own page. -/
def draft : Value → Value → Draft
  | .record fields, base =>
    let info := Value.record fields
    let start := do
      let name ← info.field "name"
      let heading ← renderHeading name base
      let sources ← orderSources (← info.field "_files")
      .ok (name, heading, sources)
    match start with
    | .error fault => ⟨[], info, some fault⟩
    | .ok (name, heading, sources) =>
      let record := Value.record (Fields.put "_files" sources fields)
      match renderSources record sources with
      | .error fault => ⟨[], record, some fault⟩
      | .ok sections => draftPage (drafts fields) base name (heading ++ sections) record
  | info, _ => ⟨[], info, some .wrongType⟩

/-- The drafts of the parts of a record. -/
def drafts : List (String × Value) → List (String × (Value → Draft))
  | [] => []
  | (name, v) :: fields => (name, fun base => draft v base) :: drafts fields

end

/-- Writes pages, in order, up to the first that cannot be written. -/
def publish : List Page → Disk → Disk × Outcome Unit
  | [], disk => (disk, .ok ())
  | page :: pages, disk =>
    match disk.write page.folder pageName (Text.Utf8.encode page.text) with
    | .ok disk => publish pages disk
    | .error fault => (disk, .error fault)

/-- Writes the pages of a draft; if all are written the draft's own fault remains. -/
def Draft.publish (d : Draft) (disk : Disk) : Disk × Outcome Unit :=
  match Docs.publish d.pages disk, d.fault? with
  | (disk, .ok ()), some fault => (disk, .error fault)
  | written, _ => written

/-- Documents the folder at a path and the folders in it. -/
def document (path : String) (disk : Disk) : Disk × Outcome Unit :=
  match folderRecordAt disk path with
  | .error fault => (disk, .error fault)
  | .ok info => (draft info (.text path)).publish disk

end Docsmith.Docs
