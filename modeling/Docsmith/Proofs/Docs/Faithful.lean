import Docsmith.Proofs.Docs.Pages
import Docsmith.Proofs.FileTree.Route

/-!
# Records that tell what their folders hold

The record of a folder has fields of its own beside the records of the entries, and an entry may have the name of such
a field: a folder `name` or `type` replaces the field, and the record of a folder `_folders` or `_files` is replaced by
the list.  Sources are never lost, since their names are none of these.  So a record tells all that its folder holds
(`Faithful`) exactly if no folder in it has one of the four names (`faithful_iff_unshadowed`).
-/

namespace Docsmith.Docs

variable {isHidden : String → Bool} {path : String} {es : Fields FileTree} {fields : Fields Value}

/-! ### The fields of a record -/

theorem isSourceName_of_mem {name : String} (h : name ∈ sourceNames es) : isSourceName name = true :=
  (mem_sourceNames.1 h).2

theorem not_mem_folderNames_of_isSourceName {name : String} (h : isSourceName name = true) :
    name ∉ folderNames isHidden es := by
  intro hmem
  have hfolder := (mem_folderNames.1 hmem).2
  simp [isFolderName, h] at hfolder

/-- The type of a record, if no folder replaces it, and the records of all sources. -/
theorem sources_of_folderRecord (h : folderRecord isHidden path (.folder es) = .ok (.record fields)) :
    ("type" ∉ folderNames isHidden es → fields.get? "type" = some (.text "folder")) ∧
      ∀ n ∈ sourceNames es, ∃ t v, es.get? n = some t ∧ sourceRecord (Path.join path n) t = .ok v ∧
        fields.get? n = some v := by
  rw [folderRecord_folder] at h
  obtain ⟨withSources, hsources, hrecord⟩ := Outcome.bind_eq_ok.1 h
  obtain ⟨_, hlists, hfields⟩ := Outcome.map_eq_ok.1 hrecord
  cases hfields
  obtain ⟨added, hfolders, rfl⟩ := Outcome.map_eq_ok.1 hlists
  obtain ⟨hsource, hkept⟩ := addRecords_ok hsources
  obtain ⟨-, hkept'⟩ := addRecords_ok hfolders
  constructor
  · intro htype
    have hnot : "type" ∉ sourceNames es := fun hmem => absurd (isSourceName_of_mem hmem) (by decide)
    rw [get?_withLists (by decide), hkept' _ htype, hkept _ hnot]
    rfl
  · intro n hn
    have hname := isSourceName_of_mem hn
    have hlist : n ∉ listNames := by
      intro hmem
      rcases mem_listNames.1 hmem with rfl | rfl
      · exact absurd hname (by decide)
      · exact absurd hname (by decide)
    obtain ⟨v, hv, hget⟩ := hsource n hn
    obtain ⟨⟨t, ht⟩, -⟩ := mem_sourceNames.1 hn
    rw [get?_sourceRecords hname, ht] at hv
    refine ⟨t, v, ht, Option.some.inj hv, ?_⟩
    rw [get?_withLists hlist, hkept' _ (not_mem_folderNames_of_isSourceName hname), hget]

/-! ### Entries with the names of fields -/

/-- The names of the fields that every record of a folder has of its own. -/
def ownNames : List String := ["name", "type", "_folders", "_files"]

/-- No entry of a documented folder that is taken for a folder has the name of a field. -/
def Unshadowed (isHidden : String → Bool) (t : FileTree) : Prop :=
  ∀ place ∈ documented isHidden t, ∀ name ∈ ownNames, (t.at? (place ++ [name])).isSome →
    isFolderName isHidden name = false

instance (isHidden : String → Bool) (t : FileTree) : Decidable (Unshadowed isHidden t) :=
  inferInstanceAs (Decidable (∀ place ∈ documented isHidden t, ∀ name ∈ ownNames, _))

private theorem unshadowed_folder :
    Unshadowed isHidden (.folder es) ↔ (∀ name ∈ ownNames, name ∉ folderNames isHidden es) ∧
      ∀ n ∈ folderNames isHidden es, ∀ t, es.get? n = some t → Unshadowed isHidden t := by
  constructor
  · intro h
    constructor
    · intro name hown hmem
      obtain ⟨⟨t, ht⟩, hfolder⟩ := mem_folderNames.1 hmem
      have := h [] (mem_documented.2 (.inl rfl)) name hown (by rw [FileTree.at?_concat rfl, ht]; rfl)
      rw [hfolder] at this
      cases this
    · intro n hn t ht place hplace name hown hsome
      have hfolder := (mem_folderNames.1 hn).2
      refine h (n :: place) (mem_documented.2 (.inr ⟨n, t, place, ht, hfolder, hplace, rfl⟩)) name hown ?_
      rw [List.cons_append, FileTree.at?, FileTree.child?, FileTree.entries, ht]
      exact hsome
  · rintro ⟨hhere, hinner⟩ place hplace name hown hsome
    rcases mem_documented.1 hplace with rfl | ⟨n, t, rest, ht, hfolder, hrest, rfl⟩
    · rw [FileTree.at?_concat rfl] at hsome
      refine Bool.eq_false_iff.2 fun hfolder => hhere name hown ?_
      exact mem_folderNames.2 ⟨Option.isSome_iff_exists.1 hsome, hfolder⟩
    · rw [List.cons_append, FileTree.at?, FileTree.child?, FileTree.entries, ht] at hsome
      exact hinner n (mem_folderNames.2 ⟨⟨t, ht⟩, hfolder⟩) t ht rest hrest name hown hsome

/-! ### Faithful records -/

/-- A record tells what its folder holds: its own path and type, and under the name of every source and folder that it
lists the record of that entry; and so do the records of its folders. -/
inductive Faithful (disk : Disk) : String → Value → Prop
  | intro (path : String) (fields : List (String × Value)) (sources folders : List String)
      (name : Fields.get? "name" fields = some (.text path))
      (type : Fields.get? "type" fields = some (.text "folder"))
      (files : Fields.get? "_files" fields = some (.list (sources.map .text)))
      (lists : Fields.get? "_folders" fields = some (.list (folders.map .text)))
      (source : ∀ n ∈ sources, ∃ v, Fields.get? n fields = some v ∧ sourceRecordAt disk (Path.join path n) = .ok v)
      (folder : ∀ n ∈ folders, ∃ v, Fields.get? n fields = some v ∧ folderRecordAt disk (Path.join path n) = .ok v)
      (inner : ∀ n ∈ folders, ∀ v, Fields.get? n fields = some v → Faithful disk (Path.join path n) v) :
      Faithful disk path (.record fields)

section

variable {disk : Disk} {root : List String}

theorem map_text_inj {names names' : List String} (h : names.map Value.text = names'.map Value.text) : names = names' :=
  (List.map_inj_right fun _ _ => Value.text.inj).1 h

/-- The record of an entry, by its path. -/
private theorem sourceRecordAt_join (hleads : disk.Leads path root) (hes : disk.tree.at? root = some (.folder es))
    {name : String} {t : FileTree} (ht : es.get? name = some t) (hname : Path.IsName name) :
    sourceRecordAt disk (Path.join path name) = sourceRecord (Path.join path name) t := by
  have hnode := (hleads.node_join hname).2 ((FileTree.at?_concat hes name).trans ht)
  rw [sourceRecordAt, hnode]
  rfl

private theorem folderRecordAt_join (hleads : disk.Leads path root) (hes : disk.tree.at? root = some (.folder es))
    {name : String} {t : FileTree} (ht : es.get? name = some t) (hname : Path.IsName name) :
    folderRecordAt disk (Path.join path name) = folderRecord disk.isFile (Path.join path name) t := by
  have hnode := (hleads.node_join hname).2 ((FileTree.at?_concat hes name).trans ht)
  rw [folderRecordAt, hnode]
  rfl

/-- What every record tells: all its sources, the folders that no list replaces, and its path and type if no folder
replaces them. -/
private theorem entries_of_folderRecord (hproper : (FileTree.folder es).isProper) (hleads : disk.Leads path root)
    (hes : disk.tree.at? root = some (.folder es))
    (h : folderRecord disk.isFile path (.folder es) = .ok (.record fields)) :
    (∀ n ∈ sourceNames es, ∃ v, fields.get? n = some v ∧ sourceRecordAt disk (Path.join path n) = .ok v) ∧
    ∀ n ∈ folderNames disk.isFile es, ∃ v, folderRecordAt disk (Path.join path n) = .ok v ∧
      (n ∉ listNames → fields.get? n = some v) := by
  obtain ⟨_, _, hfolder, hrecord, hfields⟩ := folderRecord_ok h
  cases hfolder
  cases hrecord
  have hname : ∀ n t, es.get? n = some t → Path.IsName n :=
    fun n t ht => ((FileTree.isProper_folder hproper).2 n t ht).1
  constructor
  · intro n hn
    obtain ⟨t, v, ht, hv, hget⟩ := (sources_of_folderRecord h).2 n hn
    exact ⟨v, hget, (sourceRecordAt_join hleads hes ht (hname n t ht)).trans hv⟩
  · intro n hn
    obtain ⟨t, v, ht, hv, hget⟩ := hfields.folder n hn
    exact ⟨v, (folderRecordAt_join hleads hes ht (hname n t ht)).trans hv, hget⟩

/-- No value is both a record of a folder and the value of a field that records have of their own. -/
private theorem not_mem_folderNames_of_faithful {name : String} {w : Value} (hown : fields.get? name = some w)
    (hnot : ∀ inner, w ≠ .record inner)
    (hfolder : ∀ n ∈ folderNames disk.isFile es,
      ∃ v, fields.get? n = some v ∧ folderRecordAt disk (Path.join path n) = .ok v) :
    name ∉ folderNames disk.isFile es := by
  intro hmem
  obtain ⟨v, hget, hv⟩ := hfolder name hmem
  obtain ⟨t, -, hrecord⟩ := Outcome.bind_eq_ok.1 hv
  obtain ⟨_, inner, -, rfl, -⟩ := folderRecord_ok hrecord
  exact hnot inner (Option.some.inj (hown.symm.trans hget))

private theorem faithful_iff_of_leads {t : FileTree} {v : Value} (hproper : t.isProper) (hleads : disk.Leads path root)
    (hat : disk.tree.at? root = some t) (h : folderRecord disk.isFile path t = .ok v) :
    Faithful disk path v ↔ Unshadowed disk.isFile t := by
  induction t using FileTree.induction generalizing path root v with
  | file bytes =>
    rw [folderRecord] at h
    cases h
  | folder es ih =>
    obtain ⟨_, fields, hes, rfl, hfields⟩ := folderRecord_ok h
    cases hes
    obtain ⟨hsources, hfolders⟩ := entries_of_folderRecord hproper hleads hat h
    -- what holds of the record of each folder, wherever it is kept
    have hstep : ∀ n ∈ folderNames disk.isFile es, ∀ t, es.get? n = some t → ∀ v,
        folderRecordAt disk (Path.join path n) = .ok v →
        (Faithful disk (Path.join path n) v ↔ Unshadowed disk.isFile t) := by
      intro n hn t ht v hv
      obtain ⟨hname, hinner⟩ := (FileTree.isProper_folder hproper).2 n t ht
      rw [folderRecordAt_join hleads hat ht hname] at hv
      obtain ⟨es', _, rfl, -, -⟩ := folderRecord_ok hv
      have hplace := (FileTree.at?_concat hat n).trans ht
      exact ih n _ ht hinner (hleads.join hname (FileTree.look_eq_folder.2 ⟨es', hplace⟩)) hplace hv
    rw [unshadowed_folder]
    constructor
    · rintro ⟨_, _, sources, folders, hname, htype, -, hlist, -, hfolder, hinner⟩
      obtain rfl : folderNames disk.isFile es = folders :=
        map_text_inj (Value.list.inj (Option.some.inj (hfields.folders.symm.trans hlist)))
      constructor
      · intro name hown
        rcases (by simpa [ownNames] using hown : name = "name" ∨ name = "type" ∨ name = "_folders" ∨ name = "_files")
          with rfl | rfl | rfl | rfl
        · exact not_mem_folderNames_of_faithful hname (fun _ => Value.noConfusion) hfolder
        · exact not_mem_folderNames_of_faithful htype (fun _ => Value.noConfusion) hfolder
        · exact not_mem_folderNames_of_faithful hfields.folders (fun _ => Value.noConfusion) hfolder
        · exact not_mem_folderNames_of_faithful hfields.files (fun _ => Value.noConfusion) hfolder
      · intro n hn t ht
        obtain ⟨v, hget, hv⟩ := hfolder n hn
        exact (hstep n hn t ht v hv).1 (hinner n hn v hget)
    · rintro ⟨hown, hinner⟩
      have hkept : ∀ n ∈ folderNames disk.isFile es, n ∉ listNames := by
        intro n hn hlist
        rcases mem_listNames.1 hlist with rfl | rfl
        · exact hown _ (by decide) hn
        · exact hown _ (by decide) hn
      refine .intro path fields (sourceNames es) (folderNames disk.isFile es) (hfields.name (hown _ (by decide)))
        ((sources_of_folderRecord h).1 (hown _ (by decide))) hfields.files hfields.folders hsources ?_ ?_
      · intro n hn
        obtain ⟨v, hv, hget⟩ := hfolders n hn
        exact ⟨v, hget (hkept n hn), hv⟩
      · intro n hn w hw
        obtain ⟨v, hv, hget⟩ := hfolders n hn
        obtain ⟨⟨t, ht⟩, -⟩ := mem_folderNames.1 hn
        cases hw.symm.trans (hget (hkept n hn))
        exact (hstep n hn t ht w hv).2 (hinner n hn t ht)

end

/-- What the record of a folder tells.  Every source that it lists is recorded, and every folder but one named
`_folders` or `_files`; the path and the type are there unless a folder is named `name` or `type`.  The record and all
those in it are faithful exactly if no documented folder has a folder of these four names in it. -/
theorem faithful_iff_unshadowed {disk : Disk} {v : Value} {t : FileTree} (hproper : disk.tree.isProper)
    (hnode : disk.node path = .ok t) (h : folderRecordAt disk path = .ok v) :
    (∃ (fields : Fields Value) (sources folders : List String), v = .record fields ∧
      fields.get? "_files" = some (.list (sources.map .text)) ∧
      fields.get? "_folders" = some (.list (folders.map .text)) ∧
      ("name" ∉ folders → fields.get? "name" = some (.text path)) ∧
      ("type" ∉ folders → fields.get? "type" = some (.text "folder")) ∧
      (∀ n ∈ sources, ∃ v, fields.get? n = some v ∧ sourceRecordAt disk (Path.join path n) = .ok v) ∧
      ∀ n ∈ folders, ∃ v, folderRecordAt disk (Path.join path n) = .ok v ∧ (n ∉ listNames → fields.get? n = some v)) ∧
    (Faithful disk path v ↔ Unshadowed disk.isFile t) := by
  rw [folderRecordAt, hnode] at h
  obtain ⟨es, fields, rfl, rfl, hfields⟩ := folderRecord_ok h
  obtain ⟨root, hleads, hes⟩ := Disk.leads_of_node hnode
  have hinner := (FileTree.isProper.names_of_at? hproper hes).1
  obtain ⟨hsources, hfolders⟩ := entries_of_folderRecord hinner hleads hes h
  exact ⟨⟨fields, sourceNames es, folderNames disk.isFile es, rfl, hfields.files, hfields.folders, hfields.name,
    (sources_of_folderRecord h).1, hsources, hfolders⟩, faithful_iff_of_leads hinner hleads hes h⟩

namespace Sample

/-- A disk with a folder in `d`, seen from a folder that hides the entry `type` further in. -/
def shelf : Disk :=
  { tree := .folder [("d", .folder [("sub", .folder [("type", .empty)])]), ("w", .folder [("type", .file [])])],
    current := ["w"] }

/-- The record of the folder, on a path from the current one. -/
def shelfRecord : Value :=
  .record
    [("name", .text "../d"), ("type", .text "folder"),
     ("sub", .record
      [("name", .text "../d/sub"), ("type", .text "folder"), ("_folders", .list []), ("_files", .list [])]),
     ("_folders", .list [.text "sub"]), ("_files", .list [])]

/-- A folder with a folder `name` in it. -/
def named : Disk := { tree := .folder [("d", .folder [("name", .empty)])], current := [] }

/-- Its record, in which the record of the inner folder stands in the place of the path. -/
def namedRecord : Value :=
  .record
    [("name", .record
      [("name", .text "/d/name"), ("type", .text "folder"), ("_folders", .list []), ("_files", .list [])]),
     ("type", .text "folder"), ("_folders", .list [.text "name"]), ("_files", .list [])]

end Sample

theorem sample_faithful_iff_unshadowed :
    Sample.shelf.tree.isProper ∧ folderRecordAt Sample.shelf "../d" = .ok Sample.shelfRecord ∧
    Faithful Sample.shelf "../d" Sample.shelfRecord := by
  have hproper : Sample.shelf.tree.isProper := by decide +kernel
  have hrecord : folderRecordAt Sample.shelf "../d" = .ok Sample.shelfRecord := by rfl
  exact ⟨hproper, hrecord, (faithful_iff_unshadowed hproper rfl hrecord).2.2 (by decide +kernel)⟩

/-- The record of a folder `name` takes the place of the path of the folder that it is in. -/
theorem path_lost_to_folder :
    folderRecordAt Sample.named "/d" = .ok Sample.namedRecord ∧ ¬ Faithful Sample.named "/d" Sample.namedRecord := by
  refine ⟨by rfl, ?_⟩
  rintro ⟨_, _, _, _, hname, -⟩
  cases hname

end Docsmith.Docs
