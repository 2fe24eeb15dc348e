import Docsmith.Proofs.Docs.Failure

/-!
# Drafting a record again

A run leaves the record of a folder with its sources in the order of the page, at every level (`Reordered`).  A record
in that order is drafted like the one it comes from, and stays as it is (`draft_reordered`): a run over the record that
a run has left writes the same pages (`draft_again`).
-/

namespace Docsmith

namespace Fields

variable {α : Type} {f : String → α} {names : List String} {fs : Fields α}

/-- A table with a value put in under each of the given names. -/
def putAll (f : String → α) (names : List String) (fs : Fields α) : Fields α :=
  names.foldl (fun fs n => fs.put n (f n)) fs

private theorem get?_putAll (key : String) :
    (putAll f names fs).get? key = if key ∈ names then some (f key) else fs.get? key := by
  induction names generalizing fs with
  | nil => rfl
  | cons n names ih =>
    rw [putAll, List.foldl_cons]
    refine ih.trans ?_
    by_cases hkey : key = n
    · subst hkey
      simp
    · simp [hkey]

private theorem names_putAll (h : ∀ n ∈ names, n ∈ fs.names) : (putAll f names fs).names = fs.names := by
  induction names generalizing fs with
  | nil => rfl
  | cons n names ih =>
    obtain ⟨hn, h⟩ := List.forall_mem_cons.1 h
    have hput : (fs.put n (f n)).names = fs.names := by rw [names_put, if_pos hn]
    rw [putAll, List.foldl_cons]
    exact (ih (by rwa [hput])).trans hput

private theorem putAll_self (h : ∀ n ∈ names, fs.get? n = some (f n)) : putAll f names fs = fs := by
  induction names with
  | nil => rfl
  | cons n names ih =>
    obtain ⟨hn, h⟩ := List.forall_mem_cons.1 h
    rw [putAll, List.foldl_cons, put_of_get? hn]
    exact ih h

end Fields

namespace Docs

/-! ### Drafts without a fault -/

/-- If the drafts of all folders are without a fault, each takes the place of its record and adds its pages and a
link. -/
private theorem draftFolders_done {inner : Fields (Value → Draft)} {path : String} {sub : String → Draft}
    {names : List String}
    (hinner : ∀ n ∈ names, ∃ draftFolder, inner.get? n = some draftFolder ∧ draftFolder (.text path) = sub n ∧
      (sub n).fault? = none ∧ (sub n).record.field "name" = .ok (.text (Path.join path n)))
    (base : String) (fields : Fields Value) :
    draftFolders inner (.text base) (.text path) (names.map .text) (.record fields) =
      (⟨names.flatMap fun n => (sub n).pages, .record (fields.putAll (fun n => (sub n).record) names), none⟩,
        names.flatMap fun n => (linkTo base path (Path.join path n)).render) := by
  induction names generalizing fields with
  | nil => rfl
  | cons n names ih =>
    obtain ⟨⟨draftFolder, hget, hsub, hfault, hname⟩, hinner⟩ := List.forall_mem_cons.1 hinner
    have hlookup : Value.lookup inner (.text n) = .ok draftFolder := by simp [Value.lookup, hget]
    rw [List.map_cons, draftFolders, hlookup]
    simp only [hsub, hfault, hname, setPart, bind, Except.bind, renderLink_text, ih hinner]
    rfl

/-! ### Records in another order -/

/-- The record of a folder with its sources in another order, in it and in every folder below it, and with nothing
else changed. -/
inductive Reordered (order : List String → List String) : Value → Value → Prop
  | record {fields fields' : Fields Value} {sources folders : List String}
      (files : fields.get? "_files" = some (.list (sources.map .text)))
      (files' : fields'.get? "_files" = some (.list ((order sources).map .text)))
      (inner : fields.get? "_folders" = some (.list (folders.map .text)))
      (names : fields'.names = fields.names)
      (kept : ∀ key, key ≠ "_files" → key ∉ folders → fields'.get? key = fields.get? key)
      (folder : ∀ n ∈ folders, ∀ v v', fields.get? n = some v → fields'.get? n = some v' → Reordered order v v') :
      Reordered order (.record fields) (.record fields')

variable {isHidden : String → Bool} {path : String} {t : FileTree} {es : Fields FileTree} {fields : Fields Value}

/-- The record of a folder is in its own order. -/
private theorem reordered_id {v : Value} (h : folderRecord isHidden path t = .ok v)
    (hcourse : (course isHidden t).fault? = none) :
    Reordered id v v := by
  induction t using FileTree.induction generalizing path v with
  | file bytes =>
    rw [folderRecord] at h
    cases h
  | folder es ih =>
    obtain ⟨_, fields, hes, rfl, hfields⟩ := folderRecord_ok h
    cases hes
    obtain ⟨-, hinner, -⟩ := course_folder_ok hcourse
    refine .record hfields.files hfields.files hfields.folders rfl (fun _ _ _ => rfl) fun n hn v v' hv hv' => ?_
    obtain ⟨t, u, ht, hu, hget⟩ := hfields.folder n hn
    obtain ⟨hlist, hcourse⟩ := hinner n hn
    cases hv.symm.trans (hget hlist)
    cases hv'.symm.trans (hget hlist)
    exact ih n t ht hu (hcourse t ht)

/-- What a draft starts with, for a record of a folder whose sources are in another order. -/
private theorem draftStart_names {sources : List String} (hname : fields.get? "name" = some (.text path))
    (hfiles : fields.get? "_files" = some (.list (sources.map .text))) (base : String) :
    draftStart fields (.text base) =
      .ok (.text path, headingText base path, .list ((firstInFront sources).map .text)) := by
  rw [draftStart, Value.field_record_eq_ok.2 hname, Value.field_record_eq_ok.2 hfiles]
  refine Outcome.bind_eq_ok.2 ⟨_, rfl, Outcome.bind_eq_ok.2 ⟨_, renderHeading_text base path, ?_⟩⟩
  exact Outcome.bind_eq_ok.2 ⟨_, rfl, Outcome.bind_eq_ok.2 ⟨_, orderSources_names sources, rfl⟩⟩

/-- The pages of the folders in a folder, followed by its own, are those of the documented folders. -/
private theorem map_pageAt_documented (base : String) {sub : String → List Page}
    (hsub : ∀ n ∈ folderNames isHidden es, ∀ t, es.get? n = some t →
      sub n = (documented isHidden t).map (pageAt isHidden path (Path.join path n) t)) :
    (documented isHidden (.folder es)).map (pageAt isHidden base path (.folder es)) =
      (folderNames isHidden es).flatMap sub ++ [⟨path, pageText isHidden base path es⟩] := by
  rw [documented, List.map_append, List.map_flatMap, List.flatMap_def, List.flatMap_def]
  refine congrArg (fun l : List (List Page) => l.flatten ++ [⟨path, pageText isHidden base path es⟩])
    (List.map_congr_left fun n hn => ?_)
  obtain ⟨⟨t, ht⟩, -⟩ := mem_folderNames.1 hn
  rw [hsub n hn t ht, get?_documentedIn, ht, Option.map_some, Option.getD_some, List.map_map]
  refine List.map_congr_left fun place _ => ?_
  simp only [Function.comp_apply, pageAt, FileTree.child?, FileTree.entries, ht, Option.getD_some]

/-- The draft of a record whose folders can all be drafted: its sources are brought into order, and each folder's record
is replaced by what the draft of the folder leaves. -/
private theorem draft_of_folders {sources : List String} {sub : String → Draft}
    (hname : fields.get? "name" = some (.text path))
    (hfiles : fields.get? "_files" = some (.list (sources.map .text)))
    (hfolders : fields.get? "_folders" = some (.list ((folderNames isHidden es).map .text)))
    (hsources : firstInFront sources = orderedSources es)
    (hsource : ∀ n ∈ sourceNames es, ∃ t v, es.get? n = some t ∧ sourceRecord (Path.join path n) t = .ok v ∧
      fields.get? n = some v)
    (hsub : ∀ n ∈ folderNames isHidden es, ∃ t v, es.get? n = some t ∧ fields.get? n = some v ∧
      draft v (.text path) = sub n ∧
      (sub n).pages = (documented isHidden t).map (pageAt isHidden path (Path.join path n) t) ∧
      (sub n).fault? = none ∧ (sub n).record.field "name" = .ok (.text (Path.join path n))) (base : String) :
    draft (.record fields) (.text base) =
      ⟨(documented isHidden (.folder es)).map (pageAt isHidden base path (.folder es)),
        .record ((fields.put "_files" (.list ((orderedSources es).map .text))).putAll (fun n => (sub n).record)
          (folderNames isHidden es)), none⟩ := by
  have hlist : (Value.record (fields.put "_files" (.list ((orderedSources es).map .text)))).field "_folders" =
      .ok (.list ((folderNames isHidden es).map .text)) :=
    Value.field_record_eq_ok.2 (by rw [Fields.get?_put_of_ne (by decide), hfolders])
  have hinner : ∀ n ∈ folderNames isHidden es, ∃ draftFolder, Fields.get? n (drafts fields) = some draftFolder ∧
      draftFolder (.text path) = sub n ∧ (sub n).fault? = none ∧
      (sub n).record.field "name" = .ok (.text (Path.join path n)) := by
    intro n hn
    obtain ⟨t, v, -, hv, hdraft, -, hfault, hfield⟩ := hsub n hn
    rw [get?_drafts, hv]
    exact ⟨_, rfl, hdraft, hfault, hfield⟩
  have hpages : ∀ n ∈ folderNames isHidden es, ∀ t, es.get? n = some t →
      (sub n).pages = (documented isHidden t).map (pageAt isHidden path (Path.join path n) t) := by
    intro n hn t ht
    obtain ⟨_, v, ht', -, -, hpages, -⟩ := hsub n hn
    cases ht'.symm.trans ht
    exact hpages
  have hdone := draftFolders_done hinner base (fields.put "_files" (.list ((orderedSources es).map .text)))
  rw [draft_record, draftStart_names hname hfiles, hsources]
  simp only [renderSources_entries hsource]
  rw [(draftPage_text hlist (drafts fields) (.text base) path (headingText base path ++ sourcesText es)).2
    (by rw [hdone]), hdone, map_pageAt_documented base hpages, pageText, renderLinks, isEmpty_linksOf, linksOf,
    List.flatMap_map]

/-- What a draft leaves is the record it comes from with its sources in the order of the page. -/
private theorem reordered_putAll {fields' : Fields Value} {sources folders : List String} {f : String → Value}
    (hfiles : fields.get? "_files" = some (.list (sources.map .text)))
    (hinner : fields.get? "_folders" = some (.list (folders.map .text)))
    (hnames : fields'.names = fields.names)
    (hkept : ∀ key, key ≠ "_files" → key ∉ folders → fields'.get? key = fields.get? key)
    (hlist : "_files" ∉ folders)
    (hfolder : ∀ n ∈ folders, ∃ v, fields.get? n = some v ∧ Reordered firstInFront v (f n)) :
    Reordered firstInFront (.record fields)
      (.record ((fields'.put "_files" (.list ((firstInFront sources).map .text))).putAll f folders)) := by
  have hput : (fields'.put "_files" (.list ((firstInFront sources).map .text))).names = fields.names := by
    have hmem : "_files" ∈ fields'.names := by
      rw [hnames, ← Fields.get?_isSome_iff, hfiles]
      rfl
    rw [Fields.names_put, if_pos hmem, hnames]
  refine .record hfiles ?_ hinner ?_ (fun key hkey hnot => ?_) fun n hn v v' hv hv' => ?_
  · rw [Fields.get?_putAll, if_neg hlist, Fields.get?_put_self]
  · rw [Fields.names_putAll, hput]
    intro n hn
    obtain ⟨v, hv, -⟩ := hfolder n hn
    rw [hput, ← Fields.get?_isSome_iff, hv]
    rfl
  · rw [Fields.get?_putAll, if_neg hnot, Fields.get?_put_of_ne hkey, hkept key hkey hnot]
  · obtain ⟨w, hw, hre⟩ := hfolder n hn
    rw [Fields.get?_putAll, if_pos hn] at hv'
    cases hv.symm.trans hw
    cases hv'
    exact hre

/-- A record in an order that does not matter for the order of the page is drafted with the same pages as the record it
comes from.  What the run leaves is in the order of the page; a record in that order stays as it is. -/
private theorem draft_reordered {order : List String → List String} {v v' : Value}
    (horder : ∀ names, firstInFront (order names) = firstInFront names)
    (h : folderRecord isHidden path t = .ok v) (hcourse : (course isHidden t).fault? = none)
    (hv : Reordered order v v') (base : String) :
    ∃ v'', draft v' (.text base) = ⟨(documented isHidden t).map (pageAt isHidden base path t), v'', none⟩ ∧
      Reordered firstInFront v v'' ∧ v''.field "name" = .ok (.text path) ∧ (order = firstInFront → v'' = v') := by
  induction t using FileTree.induction generalizing base path v v' with
  | file bytes =>
    rw [folderRecord] at h
    cases h
  | folder es ih =>
    obtain ⟨_, fields, hes, rfl, hfields⟩ := folderRecord_ok h
    cases hes
    obtain ⟨hname, hinner, -⟩ := course_folder_ok hcourse
    cases hv with
    | @record _ fields' sources folders files files' inner names kept folder =>
    obtain rfl : sources = sourceNames es := by
      have hlist := files.symm.trans hfields.files
      exact map_text_inj (by simpa using hlist)
    obtain rfl : folders = folderNames isHidden es := by
      have hlist := inner.symm.trans hfields.folders
      exact map_text_inj (by simpa using hlist)
    have hlists : ∀ key ∈ listNames, key ∉ folderNames isHidden es := fun key hkey hmem => (hinner key hmem).1 hkey
    have hpath : Fields.get? "name" fields' = some (.text path) := by
      rw [kept "name" (by decide) hname, hfields.name hname]
    have hfolders : Fields.get? "_folders" fields' = some (.list ((folderNames isHidden es).map .text)) := by
      rw [kept _ (by decide) (hlists _ (by decide)), hfields.folders]
    have hsource : ∀ n ∈ sourceNames es, ∃ t v, es.get? n = some t ∧ sourceRecord (Path.join path n) t = .ok v ∧
        Fields.get? n fields' = some v := by
      intro n hn
      obtain ⟨t, v, ht, hv, hget⟩ := (sources_of_folderRecord h).2 n hn
      have hne : n ≠ "_files" := by
        rintro rfl
        exact absurd (isSourceName_of_mem hn) (by decide)
      exact ⟨t, v, ht, hv, (kept n hne (not_mem_folderNames_of_isSourceName (isSourceName_of_mem hn))).trans hget⟩
    -- the draft of each folder in this one
    let sub : String → Draft := fun n =>
      (Fields.get? n fields').elim ⟨[], .null, none⟩ fun w => draft w (.text path)
    have hsub : ∀ n ∈ folderNames isHidden es, ∃ t w w', es.get? n = some t ∧ Fields.get? n fields = some w ∧
        Fields.get? n fields' = some w' ∧ draft w' (.text path) = sub n ∧
        (sub n).pages = (documented isHidden t).map (pageAt isHidden path (Path.join path n) t) ∧
        (sub n).fault? = none ∧ Reordered firstInFront w (sub n).record ∧
        (sub n).record.field "name" = .ok (.text (Path.join path n)) ∧
        (order = firstInFront → (sub n).record = w') := by
      intro n hn
      obtain ⟨t, w, ht, hw, hget⟩ := hfields.folder n hn
      obtain ⟨hlist, hcourse⟩ := hinner n hn
      have hget := hget hlist
      have hmem : n ∈ Fields.names fields' := by
        rw [names, ← Fields.get?_isSome_iff, hget]
        rfl
      obtain ⟨w', hw'⟩ := Option.isSome_iff_exists.1 (Fields.get?_isSome_iff.2 hmem)
      obtain ⟨w'', hdraft, hre, hfield, hsame⟩ := ih n t ht hw (hcourse t ht) (folder n hn w w' hget hw') path
      have hsubn : sub n = draft w' (.text path) := by simp only [sub, hw', Option.elim_some]
      refine ⟨t, w, w', ht, hget, hw', hsubn.symm, ?_⟩
      rw [hsubn, hdraft]
      exact ⟨rfl, rfl, hre, hfield, hsame⟩
    have hdraft := draft_of_folders hpath files' hfolders (horder (sourceNames es)) hsource
      (fun n hn => by
        obtain ⟨t, w, w', ht, -, hw', hdraft, hpages, hfault, -, hfield, -⟩ := hsub n hn
        exact ⟨t, w', ht, hw', hdraft, hpages, hfault, hfield⟩) base
    refine ⟨_, hdraft, ?_, ?_, ?_⟩
    · refine reordered_putAll hfields.files hfields.folders names kept (hlists _ (by decide)) fun n hn => ?_
      obtain ⟨t, w, w', -, hw, -, -, -, -, hre, -, -⟩ := hsub n hn
      exact ⟨w, hw, hre⟩
    · rw [Value.field_record_eq_ok, Fields.get?_putAll, if_neg hname, Fields.get?_put_of_ne (by decide), hpath]
    · intro hsame
      have hput : Fields.put "_files" (.list ((orderedSources es).map .text)) fields' = fields' :=
        Fields.put_of_get? (by rw [files', hsame]; rfl)
      rw [hput, Fields.putAll_self]
      intro n hn
      obtain ⟨t, w, w', -, -, hw', -, -, -, -, -, hrecord⟩ := hsub n hn
      rw [hw', hrecord hsame]

/-! ### Writing the same pages again -/

section

variable {disk disk₁ : Disk} {root : List String} {below : List (List String)} {text : List String → List Char}

private theorem withPages_self {tree : FileTree}
    (h : ∀ place ∈ below, tree.look (root ++ place ++ [pageName]) = some (.file (Text.Utf8.encode (text place)))) :
    withPages root text below tree = tree := by
  induction below with
  | nil => rfl
  | cons place below ih =>
    obtain ⟨hplace, h⟩ := List.forall_mem_cons.1 h
    rw [withPages, List.foldl_cons, FileTree.put_of_at? (FileTree.look_eq_file.1 hplace)]
    exact ih h

/-- Pages that have been written below a path are not changed by writing them again. -/
private theorem publish_again (hleads : disk.Leads path root) (hnames : ∀ place ∈ below, ∀ n ∈ place, Path.IsName n)
    (h : publish (below.map fun place => ⟨place.foldl Path.join path, text place⟩) disk = (disk₁, .ok ())) :
    publish (below.map fun place => ⟨place.foldl Path.join path, text place⟩) disk₁ = (disk₁, .ok ()) := by
  obtain ⟨hbelow, hdisk⟩ := publish_ok_of_leads hleads hnames h
  have hfolders := fun place hplace => (hbelow place hplace).1
  have hfree := fun place hplace => (hbelow place hplace).2
  have hwritten : ∀ place ∈ below, disk₁.tree.look (root ++ place ++ [pageName]) =
      some (.file (Text.Utf8.encode (text place))) := by
    rw [hdisk]
    exact (look_withPages hfolders hfree).1
  have hkept : ∀ other, disk.tree.look other = some .folder → disk₁.tree.look other = some .folder := by
    rw [hdisk]
    exact fun other hother => folder_withPages hfolders hfree hother
  have hleads₁ : disk₁.Leads path root := hleads.mono (by rw [hdisk]) hkept
  have hfree₁ : ∀ place ∈ below, isFree disk₁.tree (root ++ place) = true := by
    intro place hplace
    rw [isFree, hwritten place hplace]
    exact decide_eq_true fun heq => (by cases heq)
  have hplaces : ∀ place ∈ below, (∀ n ∈ place, Path.IsName n) ∧ disk₁.tree.look (root ++ place) = some .folder :=
    fun place hplace => ⟨hnames place hplace, hkept _ (hfolders place hplace)⟩
  have hall : below.takeWhile (fun _ => true) = below := by
    rw [← List.append_nil below, List.takeWhile_append_of_pos fun _ _ => rfl]
    rfl
  have hnone : below.find? (fun _ => !true) = none := by simp
  rw [publish_below hleads₁ hplaces hfree₁, hall, hnone, withPages_self hwritten]
  rfl

end

/-- A run can be repeated on the record that it leaves.  The record of a folder, made on one disk, is documented on
another, and the run succeeds.  It leaves the record with its sources in the order of the page, at every level, and
nothing else in it changes.  Drafting that record gives the same pages and the same record, and writing the pages
leaves the disk as it is. -/
theorem draft_again {disk₀ disk disk₁ : Disk} {path base : String} {info : Value} {d : Draft}
    (htree : disk₀.tree.isProper) (hinfo : folderRecordAt disk₀ path = .ok info) (hd : d = draft info (.text base))
    (h : d.publish disk = (disk₁, .ok ())) :
    Reordered firstInFront info d.record ∧ draft d.record (.text base) = d ∧
      (draft d.record (.text base)).publish disk₁ = (disk₁, .ok ()) := by
  obtain ⟨root₀, t, hleads₀, hat, hrecord⟩ := folderRecordAt_eq_ok hinfo
  obtain ⟨hfault, hwritten⟩ := Draft.publish_eq_ok.1 h
  have hcourse : (course disk₀.isFile t).fault? = none := by
    rw [← (draft_follows hrecord base).fault, ← hd, hfault]
  obtain ⟨v', hdraft, hre, -, -⟩ :=
    draft_reordered (fun _ => rfl) hrecord hcourse (reordered_id hrecord hcourse) base
  obtain ⟨v'', hdraft', -, -, hsame⟩ :=
    draft_reordered firstInFront_idem hrecord hcourse hre base
  have hrecord' : d.record = v' := by rw [hd, hdraft]
  have hagain : draft d.record (.text base) = d := by
    rw [hrecord', hdraft', hsame rfl, hd, hdraft]
  have hpages : d.pages = (documented disk₀.isFile t).map fun place =>
      ⟨place.foldl Path.join path, (pageAt disk₀.isFile base path t place).text⟩ := by
    rw [hd, hdraft]
    refine List.map_congr_left fun place _ => ?_
    rw [← folder_pageAt disk₀.isFile base path t place]
  have hnames : ∀ place ∈ documented disk₀.isFile t, ∀ n ∈ place, Path.IsName n :=
    fun place hplace => (documented_below htree hat hplace).1
  rw [hpages] at hwritten
  obtain ⟨es, -, rfl, -, -⟩ := folderRecord_ok hrecord
  obtain ⟨root, hleads⟩ := leads_of_publish hleads₀.ne hnames (by simp [documented]) hwritten
  refine ⟨hrecord' ▸ hre, hagain, ?_⟩
  rw [hagain, Draft.publish_eq_ok, hpages]
  exact ⟨hfault, publish_again hleads hnames hwritten⟩

namespace Sample

/-- A disk with sources in inner folders; of those in `b`, the one that comes first on the page is listed last. -/
def packaged : Disk :=
  { tree := .folder
      [("d", .folder
        [("b", .folder
          [("m.py", .file (Text.Utf8.encode "def f(x):\n  'The same.'\n  return x\n".toList)), ("c", .empty),
           ("__init__.py", .file (Text.Utf8.encode "'The package.'\n".toList))]),
         ("a", .folder [("__init__.py", .file [])])])],
    current := [] }

/-- The names of the sources in the folder `b` of a record. -/
def innerSources (record : Value) : Outcome (List String) := do
  (← (← (← record.field "b").field "_files").elements).mapM Value.keyName

end Sample

/-- The record that the run leaves has the sources of the inner folder in another order. -/
theorem sample_draft_again :
    ∃ info d disk₁, Sample.packaged.tree.isProper = true ∧ folderRecordAt Sample.packaged "d" = .ok info ∧
      d = draft info (.text "d") ∧ d.publish Sample.packaged = (disk₁, .ok ()) ∧
      d.pages.map Page.folder = ["d/b/c", "d/b", "d/a", "d"] ∧
      (Sample.innerSources info).toOption = some ["m.py", "__init__.py"] ∧
      (Sample.innerSources d.record).toOption = some ["__init__.py", "m.py"] ∧
      Reordered firstInFront info d.record ∧ draft d.record (.text "d") = d ∧
      (draft d.record (.text "d")).publish disk₁ = (disk₁, .ok ()) := by
  have htree : Sample.packaged.tree.isProper = true := by decide +kernel
  have hrun : (folderRecordAt Sample.packaged "d").toOption.map (fun info =>
      let d := draft info (.text "d")
      ((d.publish Sample.packaged).2.isOk, d.pages.map Page.folder, (Sample.innerSources info).toOption,
        (Sample.innerSources d.record).toOption)) =
      some (true, ["d/b/c", "d/b", "d/a", "d"], some ["m.py", "__init__.py"], some ["__init__.py", "m.py"]) := by
    decide +kernel
  cases hinfo : folderRecordAt Sample.packaged "d" with
  | error fault => simp [hinfo, Except.toOption] at hrun
  | ok info =>
    simp only [hinfo, Except.toOption, Option.map_some, Option.some.injEq, Prod.mk.injEq] at hrun
    obtain ⟨hok, hfolders, hbefore, hafter⟩ := hrun
    have hpublish : (draft info (.text "d")).publish Sample.packaged =
        (((draft info (.text "d")).publish Sample.packaged).1, .ok ()) := Prod.ext rfl (Outcome.eq_ok_of_isOk hok)
    exact ⟨info, _, _, htree, rfl, rfl, hpublish, hfolders, hbefore, hafter, draft_again htree hinfo rfl hpublish⟩

end Docs

end Docsmith
