import Docsmith.Proofs.Docs.Folder

/-!
# Folders seen from a current folder

Which entries of a folder are documented depends on the names of the files in the current folder, at every level.  Two
current folders give a folder the same view (`SameView`) if they hide the same entries of every folder that is
documented; below an entry whose record is lost it is enough that the runs end alike.  The same view gives the same
record or the same fault, and the same record is given by the same view only (`folderRecordAt_current`).
-/

namespace Docsmith.Docs

/-- Two tests for hidden names show the same folders in a tree. -/
inductive SameView (isHidden isHidden' : String → Bool) : String → FileTree → Prop
  | file (path : String) (bytes : List Nat) : SameView isHidden isHidden' path (.file bytes)
  | folder (path : String) (es : List (String × FileTree))
      (names : ∀ name t, Fields.get? name es = some t → isFolderName isHidden name = isFolderName isHidden' name)
      (kept : ∀ name t, Fields.get? name es = some t → isFolderName isHidden name → name ∉ listNames →
        SameView isHidden isHidden' (Path.join path name) t)
      (lost : ∀ name t, Fields.get? name es = some t → isFolderName isHidden name → name ∈ listNames →
        (folderRecord isHidden (Path.join path name) t).ending =
          (folderRecord isHidden' (Path.join path name) t).ending) :
      SameView isHidden isHidden' path (.folder es)

variable {isHidden isHidden' : String → Bool} {path : String} {es : Fields FileTree} {t : FileTree}

private theorem folderNames_congr
    (h : ∀ name t, es.get? name = some t → isFolderName isHidden name = isFolderName isHidden' name) :
    folderNames isHidden es = folderNames isHidden' es := by
  refine List.filter_congr fun name hname => ?_
  obtain ⟨t, ht⟩ := Option.isSome_iff_exists.1 (Fields.get?_isSome_iff.2 hname)
  exact h name t ht

/-- The lists of a record replace whatever has been put under their names. -/
private theorem withLists_congr {fields fields' : Fields Value} (hnodup : fields.names.Nodup)
    (hnames : fields.names = fields'.names) (hget : ∀ name, name ∉ listNames → fields.get? name = fields'.get? name) :
    withLists isHidden es fields = withLists isHidden es fields' := by
  refine Fields.ext_get? (Fields.nodup_put (Fields.nodup_put hnodup _ _) _ _) ?_ fun name => ?_
  · simp only [withLists, Fields.names_put, hnames]
  · by_cases hname : name ∈ listNames
    · rcases mem_listNames.1 hname with rfl | rfl
      · simp [withLists]
      · simp [withLists]
    · rw [get?_withLists hname, get?_withLists hname, hget name hname]

/-- Of records that are lost it matters only how they end. -/
private theorem addRecords_withLists {records records' : Fields (Outcome Value)} {names : List String}
    {fields : Fields Value}
    (hnodup : fields.names.Nodup)
    (hending : ∀ n ∈ names, (records.get? n).map Outcome.ending = (records'.get? n).map Outcome.ending)
    (hsame : ∀ n ∈ names, n ∉ listNames → records.get? n = records'.get? n) :
    (addRecords path records names fields).map (withLists isHidden es) =
      (addRecords path records' names fields).map (withLists isHidden es) := by
  have hend : (addRecords path records names fields).ending = (addRecords path records' names fields).ending :=
    addRecords_ending hending fields fields
  cases h : addRecords path records names fields with
  | error fault =>
    rw [h] at hend
    cases h' : addRecords path records' names fields with
    | error fault' =>
      rw [h'] at hend
      cases hend
      rfl
    | ok added' =>
      rw [h'] at hend
      cases hend
  | ok added =>
    rw [h] at hend
    cases h' : addRecords path records' names fields with
    | error fault' =>
      rw [h'] at hend
      cases hend
    | ok added' =>
      refine congrArg Except.ok (withLists_congr (nodup_addRecords h hnodup) (names_addRecords h h' rfl) ?_)
      intro name hlist
      obtain ⟨hadded, hkept⟩ := addRecords_ok h
      obtain ⟨hadded', hkept'⟩ := addRecords_ok h'
      by_cases hname : name ∈ names
      · obtain ⟨v, hv, hget⟩ := hadded name hname
        obtain ⟨v', hv', hget'⟩ := hadded' name hname
        rw [hsame name hname hlist, hv'] at hv
        cases hv
        rw [hget, hget']
      · rw [hkept name hname, hkept' name hname]

/-- The same view gives the same record or the same fault. -/
theorem folderRecord_congr (h : SameView isHidden isHidden' path t) :
    folderRecord isHidden path t = folderRecord isHidden' path t := by
  induction h with
  | file path bytes => rw [folderRecord, folderRecord]
  | folder path es names kept lost ih =>
    have hfolders := folderNames_congr names
    have hrecord : ∀ n ∈ folderNames isHidden es, ∃ t, Fields.get? n es = some t ∧
        Fields.get? n (folderRecords isHidden path es) = some (folderRecord isHidden (Path.join path n) t) ∧
        Fields.get? n (folderRecords isHidden' path es) = some (folderRecord isHidden' (Path.join path n) t) := by
      intro n hn
      obtain ⟨⟨t, ht⟩, hfolder⟩ := mem_folderNames.1 hn
      refine ⟨t, ht, ?_, ?_⟩
      · rw [get?_folderRecords hfolder, ht, Option.map_some]
      · rw [get?_folderRecords (names n t ht ▸ hfolder), ht, Option.map_some]
    have hsame : ∀ n ∈ folderNames isHidden es, n ∉ listNames →
        Fields.get? n (folderRecords isHidden path es) = Fields.get? n (folderRecords isHidden' path es) := by
      intro n hn hlist
      obtain ⟨t, ht, hr, hr'⟩ := hrecord n hn
      rw [hr, hr', ih n t ht (mem_folderNames.1 hn).2 hlist]
    have hending : ∀ n ∈ folderNames isHidden es, (Fields.get? n (folderRecords isHidden path es)).map Outcome.ending =
        (Fields.get? n (folderRecords isHidden' path es)).map Outcome.ending := by
      intro n hn
      by_cases hlist : n ∈ listNames
      · obtain ⟨t, ht, hr, hr'⟩ := hrecord n hn
        rw [hr, hr', Option.map_some, Option.map_some, lost n t ht (mem_folderNames.1 hn).2 hlist]
      · rw [hsame n hn hlist]
    rw [folderRecord_folder, folderRecord_folder]
    cases hsources : addRecords path (sourceRecords path es) (sourceNames es) (firstFields path) with
    | error fault => rfl
    | ok fields =>
      have hfirst : (firstFields path).names.Nodup := (by decide : ["name", "type"].Nodup)
      have hlists : withLists isHidden' es = withLists isHidden es := by
        funext fields
        rw [withLists, withLists, hfolders]
      rw [← hfolders, hlists]
      exact congrArg (Except.map Value.record) (addRecords_withLists (nodup_addRecords hsources hfirst) hending hsame)

/-- The same record is given by the same view. -/
private theorem sameView_of_folderRecord_eq {v : Value} (h : folderRecord isHidden path t = .ok v)
    (h' : folderRecord isHidden' path t = .ok v) : SameView isHidden isHidden' path t := by
  induction t using FileTree.induction generalizing path v with
  | file bytes => exact .file path bytes
  | folder es ih =>
    obtain ⟨_, fields, hes, rfl, hfields⟩ := folderRecord_ok h
    cases hes
    obtain ⟨_, _, hes, hv, hfields'⟩ := folderRecord_ok h'
    cases hes
    cases hv
    have hfolders : folderNames isHidden es = folderNames isHidden' es := by
      have htexts : (folderNames isHidden es).map Value.text = (folderNames isHidden' es).map Value.text :=
        Value.list.inj (Option.some.inj (hfields.folders.symm.trans hfields'.folders))
      exact (List.map_inj_right fun _ _ => Value.text.inj).1 htexts
    have hboth : ∀ name t, es.get? name = some t → isFolderName isHidden name → ∃ v v',
        folderRecord isHidden (Path.join path name) t = .ok v ∧
        folderRecord isHidden' (Path.join path name) t = .ok v' ∧ (name ∉ listNames → v = v') := by
      intro name t ht hname
      have hmem : name ∈ folderNames isHidden es := mem_folderNames.2 ⟨⟨t, ht⟩, hname⟩
      obtain ⟨_, v, hget, hv, hkept⟩ := hfields.folder name hmem
      obtain ⟨_, v', hget', hv', hkept'⟩ := hfields'.folder name (hfolders ▸ hmem)
      cases hget.symm.trans ht
      cases hget'.symm.trans ht
      exact ⟨v, v', hv, hv', fun hlist => Option.some.inj ((hkept hlist).symm.trans (hkept' hlist))⟩
    refine .folder path es ?_ ?_ ?_
    · intro name t ht
      have hmem : name ∈ folderNames isHidden es ↔ name ∈ folderNames isHidden' es := by rw [hfolders]
      rw [mem_folderNames, mem_folderNames, and_congr_right_iff] at hmem
      exact Bool.eq_iff_iff.2 (hmem ⟨t, ht⟩)
    · intro name t ht hname hlist
      obtain ⟨v, v', hv, hv', heq⟩ := hboth name t ht hname
      cases heq hlist
      exact ih name t ht hv hv'
    · intro name t ht hname hlist
      obtain ⟨v, v', hv, hv', -⟩ := hboth name t ht hname
      rw [hv, hv']
      rfl

/-- What the record of a folder on a path from the root owes to the current folder: the same view from two current
folders gives the same record or fault, and a record is given again only by the same view. -/
theorem folderRecordAt_current (tree : FileTree) {path : String} (habsolute : Path.isAbsolute path)
    (current current' : List String) :
    ((∀ t, Disk.node ⟨tree, current⟩ path = .ok t →
        SameView (Disk.isFile ⟨tree, current⟩) (Disk.isFile ⟨tree, current'⟩) path t) →
      folderRecordAt ⟨tree, current⟩ path = folderRecordAt ⟨tree, current'⟩ path) ∧
    ∀ v, folderRecordAt ⟨tree, current⟩ path = .ok v →
      (folderRecordAt ⟨tree, current'⟩ path = .ok v ↔
        ∀ t, Disk.node ⟨tree, current⟩ path = .ok t →
          SameView (Disk.isFile ⟨tree, current⟩) (Disk.isFile ⟨tree, current'⟩) path t) := by
  have hnode := Disk.node_of_isAbsolute habsolute tree current' current
  have hsame : (∀ t, Disk.node ⟨tree, current⟩ path = .ok t →
      SameView (Disk.isFile ⟨tree, current⟩) (Disk.isFile ⟨tree, current'⟩) path t) →
      folderRecordAt ⟨tree, current⟩ path = folderRecordAt ⟨tree, current'⟩ path := by
    intro hview
    unfold folderRecordAt
    rw [hnode]
    cases h : Disk.node ⟨tree, current⟩ path with
    | error fault => rfl
    | ok t => exact folderRecord_congr (hview t h)
  refine ⟨hsame, fun v hv => ⟨fun hv' t ht => ?_, fun hview => (hsame hview).symm.trans hv⟩⟩
  unfold folderRecordAt at hv hv'
  rw [hnode, ht] at hv'
  rw [ht] at hv
  exact sameView_of_folderRecord_eq hv hv'

namespace Sample

/-- A folder with an entry whose record is lost. -/
def folder : FileTree := .folder [("_files", .folder [("x", .empty)]), ("a", .empty)]

/-- A tree with a file that hides an entry, but one in the part that is lost. -/
def tree : FileTree := .folder [("d", folder), ("e", .folder [("x", .file [])])]

/-- The record of the folder. -/
def record : Value :=
  .record
    [("name", .text "/d"), ("type", .text "folder"), ("_files", .list []),
     ("a", .record
      [("name", .text "/d/a"), ("type", .text "folder"), ("_folders", .list []), ("_files", .list [])]),
     ("_folders", .list [.text "_files", .text "a"])]

/-- A folder with a file in it. -/
def notes : FileTree := .folder [("d", .folder [("notes.txt", .file [120])])]

end Sample

theorem sample_folderRecordAt_current :
    Path.isAbsolute "/d" ∧ Disk.isFile ⟨Sample.tree, ["e"]⟩ "x" ∧ ¬ Disk.isFile ⟨Sample.tree, []⟩ "x" ∧
    folderRecordAt ⟨Sample.tree, []⟩ "/d" = .ok Sample.record ∧
    folderRecordAt ⟨Sample.tree, ["e"]⟩ "/d" = .ok Sample.record ∧
    SameView (Disk.isFile ⟨Sample.tree, []⟩) (Disk.isFile ⟨Sample.tree, ["e"]⟩) "/d" Sample.folder := by
  have habsolute : Path.isAbsolute "/d" := by decide
  have hrecord : folderRecordAt ⟨Sample.tree, []⟩ "/d" = .ok Sample.record := by rfl
  have hrecord' : folderRecordAt ⟨Sample.tree, ["e"]⟩ "/d" = .ok Sample.record := by rfl
  refine ⟨habsolute, by decide, by decide, hrecord, hrecord', ?_⟩
  exact ((folderRecordAt_current Sample.tree habsolute [] ["e"]).2 _ hrecord).1 hrecord' Sample.folder rfl

/-- A file in a documented folder is a fault seen from elsewhere, and is passed over seen from the folder itself. -/
theorem folderRecordAt_depends_on_current :
    Path.isAbsolute "/d" ∧
    folderRecordAt ⟨Sample.notes, []⟩ "/d" = .error (.notDirectory "/d/notes.txt") ∧
    folderRecordAt ⟨Sample.notes, ["d"]⟩ "/d" =
      .ok (.record [("name", .text "/d"), ("type", .text "folder"), ("_folders", .list []), ("_files", .list [])]) :=
  ⟨by decide, by rfl, by rfl⟩

end Docsmith.Docs
