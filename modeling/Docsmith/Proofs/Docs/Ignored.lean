import Docsmith.Proofs.Docs.Writing

/-!
# Ignored folders

What lies below an ignored folder is not seen: two trees that agree everywhere else, in what is there and in the order
in which it is listed (`AgreeOutside`), have the same record (`folderRecord_of_agree`).  No name on the way to a
documented folder is that of an ignored one (`not_ignored_of_documented`), so the two runs write the same pages, and
none of them below an ignored folder (`document_of_agree`).
-/

namespace Docsmith.Docs

/-- A place below an ignored folder: the way to it from the root passes one. -/
def IsBelowIgnored (root place : List String) : Prop :=
  ∃ rest, place = root ++ rest ∧ ∃ n ∈ rest.dropLast, n ∈ ignoredFolders

/-- Two trees have the same at every place that is not below an ignored folder, and the folders under the root that
neither are ignored nor lie below an ignored one are listed in the same order. -/
structure AgreeOutside (root : List String) (t t' : FileTree) : Prop where
  look : ∀ place, ¬ IsBelowIgnored root place → t.look place = t'.look place
  listing : ∀ rest, (∀ n ∈ rest, n ∉ ignoredFolders) → t.listing (root ++ rest) = t'.listing (root ++ rest)

variable {root place rest : List String} {t t' : FileTree} {es es' : Fields FileTree} {name : String}

private theorem isBelowIgnored_append :
    IsBelowIgnored root (root ++ rest) ↔ ∃ n ∈ rest.dropLast, n ∈ ignoredFolders := by
  constructor
  · rintro ⟨rest', heq, hignored⟩
    rwa [List.append_cancel_left heq]
  · exact fun hignored => ⟨rest, rfl, hignored⟩

/-- A folder that is not in an ignored one, and its entries, are not below one. -/
private theorem not_isBelowIgnored (hplace : ∀ n ∈ place, n ∉ ignoredFolders) :
    ¬ IsBelowIgnored root (root ++ place) ∧ ∀ name, ¬ IsBelowIgnored root (root ++ place ++ [name]) := by
  refine ⟨?_, fun name => ?_⟩
  · rw [isBelowIgnored_append]
    rintro ⟨n, hn, hignored⟩
    exact hplace n ((List.dropLast_sublist place).subset hn) hignored
  · rw [List.append_assoc, isBelowIgnored_append, List.dropLast_concat]
    rintro ⟨n, hn, hignored⟩
    exact hplace n hn hignored

/-! ### The same record -/

private theorem AgreeOutside.at? {u u' : FileTree} (h : AgreeOutside root t t') (hu : t.at? root = some u)
    (hu' : t'.at? root = some u') : AgreeOutside [] u u' := by
  refine ⟨fun place hplace => ?_, fun rest hrest => ?_⟩
  · rw [← FileTree.look_append hu, ← FileTree.look_append hu']
    refine h.look _ fun hbelow => hplace ?_
    rw [isBelowIgnored_append] at hbelow
    exact ⟨place, rfl, hbelow⟩
  · have hlist := h.listing rest hrest
    rwa [FileTree.listing, FileTree.listing, FileTree.at?_append, FileTree.at?_append, hu, hu'] at hlist

private theorem AgreeOutside.kind (h : AgreeOutside [] t t') : t.kind = t'.kind := by
  have hnone : ∀ n ∈ ([] : List String), n ∉ ignoredFolders := by simp
  exact Option.some.inj (h.look [] (not_isBelowIgnored hnone).1)

private theorem AgreeOutside.entry (h : AgreeOutside [] (.folder es) (.folder es')) (name : String) :
    (es.get? name).map FileTree.kind = (es'.get? name).map FileTree.kind := by
  have hnone : ∀ n ∈ ([] : List String), n ∉ ignoredFolders := by simp
  have hlook := h.look [name] ((not_isBelowIgnored hnone).2 name)
  have hone : ∀ es : Fields FileTree, (FileTree.folder es).look [name] = (es.get? name).map FileTree.kind := by
    intro es
    rw [FileTree.look_cons, FileTree.child?, FileTree.entries]
    cases es.get? name <;> rfl
  rwa [hone, hone] at hlook

/-- Two folders that agree, agree in each entry that is not an ignored folder. -/
private theorem AgreeOutside.child (h : AgreeOutside [] (.folder es) (.folder es')) (hname : name ∉ ignoredFolders)
    (ht : es.get? name = some t) (ht' : es'.get? name = some t') : AgreeOutside [] t t' := by
  refine ⟨fun place hplace => ?_, fun rest hrest => ?_⟩
  · have hlook := h.look (name :: place) ?_
    · rw [FileTree.look_cons, FileTree.look_cons, FileTree.child?, FileTree.child?] at hlook
      simpa [FileTree.entries, ht, ht'] using hlook
    · rintro ⟨rest, rfl, n, hn, hignored⟩
      cases place with
      | nil => cases hn
      | cons m place =>
        rcases List.mem_cons.1 hn with rfl | hn
        · exact hname hignored
        · exact hplace ⟨m :: place, rfl, n, hn, hignored⟩
  · have hlist := h.listing (name :: rest) (List.forall_mem_cons.2 ⟨hname, hrest⟩)
    rw [List.nil_append, FileTree.listing_cons, FileTree.listing_cons, FileTree.child?, FileTree.child?] at hlist
    simpa [FileTree.entries, ht, ht'] using hlist

private theorem not_ignored_of_isFolderName {isHidden : String → Bool} (h : isFolderName isHidden name) :
    name ∉ ignoredFolders := by
  simp only [isFolderName, Bool.and_eq_true, Bool.not_eq_true', List.contains_eq_mem, decide_eq_false_iff_not] at h
  exact h.2

private theorem sourceRecord_of_kind (h : t.kind = t'.kind) (path : String) :
    sourceRecord path t = sourceRecord path t' := by
  cases t <;> cases t' <;> cases h <;> rfl

/-- The record of a folder does not depend on what is below ignored folders. -/
private theorem folderRecord_of_agree (h : AgreeOutside [] t t') (isHidden : String → Bool) (path : String) :
    folderRecord isHidden path t = folderRecord isHidden path t' := by
  induction t using FileTree.induction generalizing t' path with
  | file bytes =>
    cases t' with
    | file bytes' =>
      cases h.kind
      rfl
    | folder es' => cases h.kind
  | folder es ih =>
    cases t' with
    | file bytes' => cases h.kind
    | folder es' =>
      have hnames : Fields.names es = Fields.names es' := h.listing [] (by simp)
      have hother : ∀ n t, Fields.get? n es = some t →
          ∃ t', Fields.get? n es' = some t' ∧ t.kind = FileTree.kind t' := by
        intro n t ht
        have hentry := h.entry n
        rw [ht, Option.map_some] at hentry
        obtain ⟨t', ht', hkind⟩ := Option.map_eq_some_iff.1 hentry.symm
        exact ⟨t', ht', hkind.symm⟩
      -- sources are the same files, and a folder to document is not ignored, so the two agree in it
      refine folderRecord_folder_congr (by rw [sourceNames, sourceNames, hnames])
        (by rw [folderNames, folderNames, hnames]) (fun n hn => ?_) fun n hn => ?_
      · obtain ⟨⟨t, ht⟩, hname⟩ := mem_sourceNames.1 hn
        obtain ⟨t', ht', hkind⟩ := hother n t ht
        rw [get?_sourceRecords hname, get?_sourceRecords hname, ht, ht', Option.map_some, Option.map_some,
          sourceRecord_of_kind hkind]
      · obtain ⟨⟨t, ht⟩, hname⟩ := mem_folderNames.1 hn
        obtain ⟨t', ht', -⟩ := hother n t ht
        rw [get?_folderRecords hname, get?_folderRecords hname, ht, ht', Option.map_some, Option.map_some,
          ih n t ht (h.child (not_ignored_of_isFolderName hname) ht ht')]

section

variable {disk disk' : Disk} {path : String} (hproper : disk.isProper) (hproper' : disk'.isProper)
  (hcurrent : disk'.current = disk.current)
  (houtside : ∀ rest, disk.current = root ++ rest → ∀ n ∈ rest, n ∉ ignoredFolders)
  (h : AgreeOutside root disk.tree disk'.tree)

include hproper hproper' hcurrent houtside h

/-- The current folder hides the same names on two disks that agree, if it is not in an ignored folder. -/
private theorem isFile_of_agree (hname : Path.IsName name) : disk.isFile name = disk'.isFile name := by
  have hplace : ¬ IsBelowIgnored root (disk.current ++ [name]) := by
    rintro ⟨rest, heq, n, hn, hignored⟩
    -- an ignored folder on the way to the entry would be on the way to the current folder
    obtain rfl | ⟨before, last, rfl⟩ := List.eq_nil_or_concat rest
    · cases hn
    · rw [List.concat_eq_append, List.dropLast_concat] at hn
      rw [List.concat_eq_append, ← List.append_assoc] at heq
      exact houtside before (List.append_inj_left' heq rfl) n hn hignored
  rw [Bool.eq_iff_iff, Disk.isFile_name hname (Disk.isProper_iff.1 hproper).2,
    Disk.isFile_name hname (Disk.isProper_iff.1 hproper').2, hcurrent, h.look _ hplace]

private theorem folderRecordAt_of_agree (hleads : disk.Leads path root) (hleads' : disk'.Leads path root) :
    folderRecordAt disk path = folderRecordAt disk' path := by
  obtain ⟨es, hes⟩ := FileTree.look_eq_folder.1 hleads.folder
  obtain ⟨es', hes'⟩ := FileTree.look_eq_folder.1 hleads'.folder
  have ht := (FileTree.isProper.names_of_at? (Disk.isProper_iff.1 hproper).1 hes).1
  have hview : SameView disk.isFile disk'.isFile path (.folder es) := by
    refine sameView_of_documented fun place _ name u hu => ?_
    have hname := (FileTree.isProper.names_of_at? ht hu).2 name List.mem_concat_self
    rw [isFolderName, isFolderName, isFile_of_agree hproper hproper' hcurrent houtside h hname]
  calc folderRecordAt disk path
      = folderRecord disk.isFile path (.folder es) := by rw [folderRecordAt, hleads.node.2 hes]; rfl
    _ = folderRecord disk'.isFile path (.folder es) := folderRecord_congr hview
    _ = folderRecord disk'.isFile path (.folder es') := folderRecord_of_agree (h.at? hes hes') _ _
    _ = folderRecordAt disk' path := by rw [folderRecordAt, hleads'.node.2 hes']; rfl

end

/-! ### The same pages -/

/-- No name on the way to a documented folder is that of an ignored one. -/
private theorem not_ignored_of_documented {isHidden : String → Bool} (h : place ∈ documented isHidden t) :
    ∀ n ∈ place, n ∉ ignoredFolders := by
  induction t using FileTree.induction generalizing place with
  | file bytes =>
    rw [documented] at h
    cases h
  | folder es ih =>
    rcases mem_documented.1 h with rfl | ⟨name, t, rest, ht, hname, hrest, rfl⟩
    · simp
    · exact List.forall_mem_cons.2 ⟨not_ignored_of_isFolderName hname, ih name t ht hrest⟩

/-- Writing pages changes nothing below ignored folders. -/
private theorem look_below_ignored {tree : FileTree} {text : List String → List Char} {places : List (List String)}
    (hplaces : ∀ place ∈ places, ∀ n ∈ place, n ∉ ignoredFolders)
    (hfolders : ∀ place ∈ places, tree.look (root ++ place) = some .folder)
    (hfree : ∀ place ∈ places, isFree tree (root ++ place)) (hbelow : IsBelowIgnored root place) :
    (withPages root text places tree).look place = tree.look place := by
  refine (look_withPages hfolders hfree).2 place ?_
  rintro written hwritten rfl
  exact (not_isBelowIgnored (hplaces written hwritten)).2 pageName hbelow

/-- What lies below ignored folders under the documented one does not matter: on two disks that agree elsewhere and
list the documented folders in the same order, with the same current folder not in an ignored one, the record of the
folder is the same or the same fault is raised, and the runs write the same pages and end alike.  Nothing below an
ignored folder is written. -/
theorem document_of_agree {disk disk' : Disk} {path : String} (hproper : disk.isProper) (hproper' : disk'.isProper)
    (hcurrent : disk'.current = disk.current)
    (houtside : ∀ rest, disk.current = root ++ rest → ∀ n ∈ rest, n ∉ ignoredFolders)
    (hleads : disk.Leads path root) (hleads' : disk'.Leads path root) (h : AgreeOutside root disk.tree disk'.tree) :
    folderRecordAt disk path = folderRecordAt disk' path ∧
    (∃ text places ending,
      document path disk = ({ disk with tree := withPages root text places disk.tree }, ending) ∧
      document path disk' = ({ disk' with tree := withPages root text places disk'.tree }, ending) ∧
      ∀ place ∈ places, ¬ IsBelowIgnored root (root ++ place ++ [pageName])) ∧
    ∀ place, IsBelowIgnored root place →
      (document path disk).1.tree.look place = disk.tree.look place ∧
      (document path disk').1.tree.look place = disk'.tree.look place := by
  have hrecord := folderRecordAt_of_agree hproper hproper' hcurrent houtside h hleads hleads'
  refine ⟨hrecord, ?_⟩
  cases hinfo : folderRecordAt disk path with
  | error fault =>
    have hrun : document path disk = (disk, .error fault) := by rw [document, hinfo]
    have hrun' : document path disk' = (disk', .error fault) := by rw [document, ← hrecord, hinfo]
    rw [hrun, hrun']
    exact ⟨⟨fun _ => [], [], .error fault, rfl, rfl, fun place hplace => by cases hplace⟩, fun _ _ => ⟨rfl, rfl⟩⟩
  | ok info =>
    obtain ⟨t, hnode, hfolder⟩ := Outcome.bind_eq_ok.1 hinfo
    have hat := hleads.node.1 hnode
    have hdocumented : ∀ place ∈ (course disk.isFile t).places, place ∈ documented disk.isFile t :=
      fun place hplace => mem_documented_of_course hplace
    have hignored := fun place hplace => not_ignored_of_documented (hdocumented place hplace)
    have hplaces := fun place hplace =>
      documented_below (Disk.isProper_iff.1 hproper).1 hat (hdocumented place hplace)
    have hplaces' : ∀ place ∈ (course disk.isFile t).places, (∀ n ∈ place, Path.IsName n) ∧
        disk'.tree.look (root ++ place) = some .folder := by
      intro place hplace
      rw [← h.look _ (not_isBelowIgnored (hignored place hplace)).1]
      exact hplaces place hplace
    -- the same pages can be written on both disks, so both runs stop at the same one
    have hfree : ∀ place ∈ (course disk.isFile t).places,
        isFree disk'.tree (root ++ place) = isFree disk.tree (root ++ place) := by
      intro place hplace
      rw [isFree, isFree, h.look _ ((not_isBelowIgnored (hignored place hplace)).2 pageName)]
    have hrun := document_of_draft hinfo (pages_of_draft hfolder) hleads hplaces fun place _ => rfl
    have hrun' := document_of_draft (hrecord ▸ hinfo) (pages_of_draft hfolder) hleads' hplaces' hfree
    refine ⟨⟨_, _, _, hrun, hrun', fun place hplace =>
      (not_isBelowIgnored (hignored place (of_mem_takeWhile hplace).1)).2 pageName⟩, fun place hbelow => ⟨?_, ?_⟩⟩
    · rw [hrun]
      exact look_below_ignored (fun place hplace => hignored place (of_mem_takeWhile hplace).1)
        (fun place hplace => (hplaces place (of_mem_takeWhile hplace).1).2)
        (fun place hplace => (of_mem_takeWhile hplace).2) hbelow
    · rw [hrun']
      exact look_below_ignored (fun place hplace => hignored place (of_mem_takeWhile hplace).1)
        (fun place hplace => (hplaces' place (of_mem_takeWhile hplace).1).2)
        (fun place hplace => (hfree place (of_mem_takeWhile hplace).1).trans (of_mem_takeWhile hplace).2) hbelow

namespace Sample

/-- A folder with an ignored folder in it, on the disk that it is documented on. -/
def fresh : Disk :=
  { tree := .folder [("d", .folder [("a", .folder [("b", .empty)]), ("env", .folder [("lib", .empty)])])],
    current := ["d"] }

/-- The same disk with a source that cannot be read in the ignored folder. -/
def used : Disk := { fresh with tree := fresh.tree.put ["d", "env", "lib", "x.py"] (.file [255]) }

end Sample

theorem sample_document_of_agree :
    AgreeOutside ["d"] Sample.fresh.tree Sample.used.tree ∧
    Sample.fresh.tree.look ["d", "env", "lib", "x.py"] ≠ Sample.used.tree.look ["d", "env", "lib", "x.py"] ∧
    folderRecordAt Sample.fresh "/d" = folderRecordAt Sample.used "/d" := by
  have hagree : AgreeOutside ["d"] Sample.fresh.tree Sample.used.tree := by
    refine ⟨fun place hplace => ?_, fun rest hrest => ?_⟩
    · have hput := @FileTree.look_put Sample.fresh.tree "x.py" ["d", "env", "lib"] (by decide) (by decide) [255] place
      have hne : place ≠ ["d", "env", "lib", "x.py"] := by
        rintro rfl
        exact hplace ⟨["env", "lib", "x.py"], rfl, "env", by decide, by decide⟩
      exact (hput.trans (if_neg hne)).symm
    · have hne : ["d"] ++ rest ≠ ["d", "env", "lib"] := by
        intro heq
        cases heq
        exact hrest "env" (by decide) (by decide)
      exact (@FileTree.listing_put Sample.fresh.tree "x.py" _ _ (by decide) (by decide) hne [255]).symm
  have houtside : ∀ rest, Sample.fresh.current = ["d"] ++ rest → ∀ n ∈ rest, n ∉ ignoredFolders := by
    intro rest heq
    cases heq
    simp
  have hcurrent : Sample.used.current = Sample.fresh.current := rfl
  have hleads : Sample.fresh.Leads "/d" ["d"] := ⟨by decide, by decide, by rfl, by rfl⟩
  have hleads' : Sample.used.Leads "/d" ["d"] := ⟨by decide, by decide, by rfl, by rfl⟩
  exact ⟨hagree, by decide,
    (document_of_agree (by decide +kernel) (by decide +kernel) hcurrent houtside hleads hleads' hagree).1⟩

end Docsmith.Docs
