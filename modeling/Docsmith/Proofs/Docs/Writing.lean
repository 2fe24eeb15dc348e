import Docsmith.Proofs.Docs.Course
import Docsmith.Proofs.Docs.Rerun

/-!
# Writing pages below a folder

Pages are written one after another up to the first whose place is taken by a folder (`publish_below`), and nothing but
these pages changes (`look_withPages`).  What is written below a folder depends on the tree there and not on the path
to it (`at?_withPages`).
-/

namespace Docsmith.Docs

variable {tree t : FileTree} {root place : List String} {places : List (List String)} {text : List String → List Char}

/-- Whether the page of the folder at a place can be written: there is no folder of its name. -/
def isFree (tree : FileTree) (place : List String) : Bool := decide (tree.look (place ++ [pageName]) ≠ some .folder)

/-- A tree with the pages of the folders at places below `root`. -/
def withPages (root : List String) (text : List String → List Char) (places : List (List String)) (tree : FileTree) :
    FileTree :=
  places.foldl (fun tree place => tree.put (root ++ place ++ [pageName]) (.file (Text.Utf8.encode (text place)))) tree

/-- A page that is written takes no folder away. -/
theorem look_put_page (hfolder : tree.look place = some .folder) (hfree : isFree tree place) (bytes : List Nat)
    (other : List String) :
    (tree.put (place ++ [pageName]) (.file bytes)).look other = some .folder ↔ tree.look other = some .folder := by
  have hnot := of_decide_eq_true hfree
  rw [FileTree.look_put hfolder hnot]
  split
  next heq =>
    subst heq
    exact iff_of_false (fun h => by cases h) hnot
  next => exact .rfl

theorem isFree_put_page (hfolder : tree.look place = some .folder) (hfree : isFree tree place) (bytes : List Nat)
    (other : List String) : isFree (tree.put (place ++ [pageName]) (.file bytes)) other = isFree tree other := by
  rw [isFree, isFree, decide_eq_decide]
  exact not_congr (look_put_page hfolder hfree bytes _)

/-- What is written is there, and all else is as it was. -/
theorem look_withPages (hfolders : ∀ place ∈ places, tree.look (root ++ place) = some .folder)
    (hfree : ∀ place ∈ places, isFree tree (root ++ place)) :
    (∀ place ∈ places, (withPages root text places tree).look (root ++ place ++ [pageName]) =
      some (.file (Text.Utf8.encode (text place)))) ∧
    ∀ other, (∀ place ∈ places, other ≠ root ++ place ++ [pageName]) →
      (withPages root text places tree).look other = tree.look other := by
  induction places generalizing tree with
  | nil => exact ⟨fun place hplace => (nomatch hplace), fun other _ => rfl⟩
  | cons first places ih =>
    obtain ⟨hfirst, hfolders⟩ := List.forall_mem_cons.1 hfolders
    obtain ⟨hfirstFree, hfree⟩ := List.forall_mem_cons.1 hfree
    have hlook := FileTree.look_put hfirst (of_decide_eq_true hfirstFree) (Text.Utf8.encode (text first))
    obtain ⟨hwritten, hkept⟩ := ih
      (fun place hplace =>
        (look_put_page hfirst hfirstFree (Text.Utf8.encode (text first)) _).2 (hfolders place hplace))
      (fun place hplace => (isFree_put_page hfirst hfirstFree _ _).trans (hfree place hplace))
    constructor
    · intro place hplace
      by_cases hmem : place ∈ places
      · exact hwritten place hmem
      · obtain rfl : place = first := (List.mem_cons.1 hplace).resolve_right hmem
        have hother : ∀ place' ∈ places, root ++ place ++ [pageName] ≠ root ++ place' ++ [pageName] := by
          intro place' hplace' heq
          exact hmem (List.append_cancel_left (List.append_cancel_right heq) ▸ hplace')
        exact (hkept _ hother).trans ((hlook _).trans (if_pos rfl))
    · intro other hother
      obtain ⟨hne, hother⟩ := List.forall_mem_cons.1 hother
      exact (hkept other hother).trans ((hlook other).trans (if_neg hne))

/-- Pages take no folder away. -/
theorem folder_withPages (hfolders : ∀ place ∈ places, tree.look (root ++ place) = some .folder)
    (hfree : ∀ place ∈ places, isFree tree (root ++ place)) {other : List String}
    (hother : tree.look other = some .folder) : (withPages root text places tree).look other = some .folder := by
  refine ((look_withPages hfolders hfree).2 other ?_).trans hother
  rintro place hplace rfl
  exact of_decide_eq_true (hfree place hplace) hother

theorem withPages_congr {text' : List String → List Char} (h : ∀ place ∈ places, text place = text' place)
    (root : List String) (tree : FileTree) : withPages root text places tree = withPages root text' places tree := by
  unfold withPages
  induction places generalizing tree with
  | nil => rfl
  | cons place places ih =>
    obtain ⟨hfirst, hrest⟩ := List.forall_mem_cons.1 h
    rw [List.foldl_cons, List.foldl_cons, hfirst]
    exact ih hrest _

private theorem at?_withPages (h : tree.at? root = some t) (text : List String → List Char)
    (places : List (List String)) :
    (withPages root text places tree).at? root = some (withPages [] text places t) := by
  induction places generalizing tree t with
  | nil => exact h
  | cons place places ih =>
    have hput := FileTree.at?_put_append h (place ++ [pageName]) (.file (Text.Utf8.encode (text place)))
    rw [← List.append_assoc] at hput
    exact ih hput

private theorem isFree_append (h : tree.at? root = some t) (place : List String) :
    isFree tree (root ++ place) = isFree t place := by
  rw [isFree, isFree, List.append_assoc, FileTree.look_append h]

theorem of_mem_takeWhile {free : List String → Bool} (h : place ∈ places.takeWhile free) :
    place ∈ places ∧ free place := by
  have hall : (places.takeWhile free).all free = true := List.all_takeWhile
  exact ⟨(List.takeWhile_sublist free).subset h, List.all_eq_true.1 hall place h⟩

/-- Pages are written up to the first that cannot be, and that one is the fault. -/
theorem publish_below {disk : Disk} {path : String} {free : List String → Bool} (hleads : disk.Leads path root)
    (hplaces : ∀ place ∈ places, (∀ n ∈ place, Path.IsName n) ∧ disk.tree.look (root ++ place) = some .folder)
    (hfree : ∀ place ∈ places, isFree disk.tree (root ++ place) = free place) :
    publish (places.map fun place => ⟨place.foldl Path.join path, text place⟩) disk =
      ({ disk with tree := withPages root text (places.takeWhile free) disk.tree },
        (places.find? fun place => !free place).elim (.ok ()) fun place =>
          .error (.isDirectory (Path.join (place.foldl Path.join path) pageName))) := by
  induction places generalizing disk with
  | nil => rfl
  | cons place places ih =>
    obtain ⟨⟨hnames, hfolder⟩, hplaces⟩ := List.forall_mem_cons.1 hplaces
    obtain ⟨hfirst, hfree⟩ := List.forall_mem_cons.1 hfree
    have hwrite := (hleads.foldl_join hnames hfolder).write isName_pageName (Text.Utf8.encode (text place))
    rw [List.map_cons, publish, hwrite, List.takeWhile_cons, List.find?_cons]
    by_cases hisFree : isFree disk.tree (root ++ place)
    · have hkept := look_put_page hfolder hisFree (Text.Utf8.encode (text place))
      have hleads' : Disk.Leads { disk with
          tree := disk.tree.put (root ++ place ++ [pageName]) (.file (Text.Utf8.encode (text place))) } path root :=
        hleads.mono rfl fun q hq => (hkept q).2 hq
      have hrest := ih hleads'
        (fun place' hplace' => ⟨(hplaces place' hplace').1, (hkept _).2 (hplaces place' hplace').2⟩)
        (fun place' hplace' => (isFree_put_page hfolder hisFree _ _).trans (hfree place' hplace'))
      rw [if_neg (of_decide_eq_true hisFree), ← hfirst, hisFree]
      exact hrest
    · have hblocked : disk.tree.look (root ++ place ++ [pageName]) = some .folder := by
        simpa [isFree] using hisFree
      rw [if_pos hblocked, ← hfirst, eq_false_of_ne_true hisFree]
      rfl

/-! ### Runs -/

variable {disk disk₁ : Disk} {path : String} {info : Value} {isHidden : String → Bool}

/-- The documented folders of a proper tree are folders of the disk, and paths can name them. -/
theorem documented_below (htree : tree.isProper) (hat : tree.at? root = some t)
    (hplace : place ∈ documented isHidden t) :
    (∀ n ∈ place, Path.IsName n) ∧ tree.look (root ++ place) = some .folder := by
  have hfolder := look_of_mem_documented hplace
  obtain ⟨es, hes⟩ := FileTree.look_eq_folder.1 hfolder
  exact ⟨(FileTree.isProper.names_of_at? (FileTree.isProper.names_of_at? htree hat).1 hes).2,
    (FileTree.look_append hat place).trans hfolder⟩

/-- What a run comes to, by the pages of its draft: they are written up to the first that cannot be, and the fault of
the draft remains only if all are. -/
theorem document_of_draft {free : List String → Bool} (hinfo : folderRecordAt disk path = .ok info)
    (hpages : (draft info (.text path)).pages = places.map fun place => ⟨place.foldl Path.join path, text place⟩)
    (hleads : disk.Leads path root)
    (hplaces : ∀ place ∈ places, (∀ n ∈ place, Path.IsName n) ∧ disk.tree.look (root ++ place) = some .folder)
    (hfree : ∀ place ∈ places, isFree disk.tree (root ++ place) = free place) :
    document path disk =
      ({ disk with tree := withPages root text (places.takeWhile free) disk.tree },
        (places.find? fun place => !free place).elim
          ((draft info (.text path)).fault?.elim (.ok ()) .error) fun place =>
            .error (.isDirectory (Path.join (place.foldl Path.join path) pageName))) := by
  rw [document, hinfo]
  simp only [Draft.publish, hpages, publish_below hleads hplaces hfree]
  cases places.find? fun place => !free place with
  | some place => rfl
  | none => cases (draft info (.text path)).fault? <;> rfl

theorem pages_of_draft (h : folderRecord isHidden path t = .ok info) :
    (draft info (.text path)).pages = (course isHidden t).places.map fun place =>
      ⟨place.foldl Path.join path, (pageAt isHidden path path t place).text⟩ := by
  rw [(draft_follows h path).pages]
  refine List.map_congr_left fun place _ => ?_
  rw [← folder_pageAt isHidden path path t place]

/-- The tree that a run leaves at its path is made of the tree that was there and of the texts of the pages. -/
theorem node_document (htree : disk.tree.isProper) (hleads : disk.Leads path root) (hat : disk.tree.at? root = some t)
    (hrecord : folderRecord disk.isFile path t = .ok info) :
    (document path disk).1.node path =
      .ok (withPages [] (fun place => (pageAt disk.isFile path path t place).text)
        ((course disk.isFile t).places.takeWhile (isFree t)) t) := by
  have hinfo : folderRecordAt disk path = .ok info := Outcome.bind_eq_ok.2 ⟨t, hleads.node.2 hat, hrecord⟩
  have hplaces : ∀ place ∈ (course disk.isFile t).places, (∀ n ∈ place, Path.IsName n) ∧
      disk.tree.look (root ++ place) = some .folder :=
    fun place hplace => documented_below htree hat (mem_documented_of_course hplace)
  rw [document_of_draft hinfo (pages_of_draft hrecord) hleads hplaces fun place _ => isFree_append hat place]
  have hwritten : ∀ place ∈ (course disk.isFile t).places.takeWhile (isFree t),
      disk.tree.look (root ++ place) = some .folder ∧ isFree disk.tree (root ++ place) :=
    fun place hplace => ⟨(hplaces place (of_mem_takeWhile hplace).1).2,
      (isFree_append hat place).trans (of_mem_takeWhile hplace).2⟩
  have hleads' : Disk.Leads { disk with
      tree := withPages root (fun place => (pageAt disk.isFile path path t place).text)
        ((course disk.isFile t).places.takeWhile (isFree t)) disk.tree } path root :=
    hleads.mono rfl fun _ hother =>
      folder_withPages (fun place hplace => (hwritten place hplace).1)
        (fun place hplace => (hwritten place hplace).2) hother
  exact hleads'.node.2 (at?_withPages hat _ _)

/-- A run that succeeds over the tree `t`, which stands at `root`. -/
structure Succeeds (disk disk₁ : Disk) (path : String) (info : Value) (root : List String) (t : FileTree) : Prop where
  leads : disk.Leads path root
  tree : disk.tree.at? root = some t
  record : folderRecord disk.isFile path t = .ok info
  fault : (course disk.isFile t).fault? = none
  free : ∀ place ∈ documented disk.isFile t, isFree disk.tree (root ++ place)
  result : disk₁ = { disk with
    tree := withPages root (fun place => (pageAt disk.isFile path path t place).text) (documented disk.isFile t)
      disk.tree }

theorem folderRecordAt_eq_ok (h : folderRecordAt disk path = .ok info) :
    ∃ root t, disk.Leads path root ∧ disk.tree.at? root = some t ∧ folderRecord disk.isFile path t = .ok info := by
  obtain ⟨t, hnode, hrecord⟩ := Outcome.bind_eq_ok.1 h
  obtain ⟨es, -, rfl, -, -⟩ := folderRecord_ok hrecord
  obtain ⟨root, hleads, hat⟩ := Disk.leads_of_node hnode
  exact ⟨root, _, hleads, hat, hrecord⟩

theorem succeeds_of_document (htree : disk.tree.isProper) (h : document path disk = (disk₁, .ok ())) :
    ∃ info root t, folderRecordAt disk path = .ok info ∧ Succeeds disk disk₁ path info root t := by
  obtain ⟨info, hinfo, hfault, -⟩ := document_eq_ok.1 h
  obtain ⟨root, t, hleads, hat, hrecord⟩ := folderRecordAt_eq_ok hinfo
  have hcourse : (course disk.isFile t).fault? = none := (draft_follows hrecord path).fault.symm.trans hfault
  have hpages := pages_of_draft hrecord
  rw [places_of_course hcourse] at hpages
  have hrun := document_of_draft hinfo hpages hleads (fun place hplace => documented_below htree hat hplace)
    fun place _ => rfl
  rw [h] at hrun
  obtain ⟨hdisk, hend⟩ := Prod.mk.inj hrun
  have hfree : ∀ place ∈ documented disk.isFile t, isFree disk.tree (root ++ place) := by
    cases hfind : (documented disk.isFile t).find? fun place => !isFree disk.tree (root ++ place) with
    | some place => simp [hfind] at hend
    | none => simpa using hfind
  have hall : (documented disk.isFile t).takeWhile (fun place => isFree disk.tree (root ++ place)) =
      documented disk.isFile t := by
    rw [← List.append_nil (documented disk.isFile t), List.takeWhile_append_of_pos hfree]
    rfl
  rw [hall] at hdisk
  exact ⟨info, root, t, hinfo, hleads, hat, hrecord, hcourse, hfree, hdisk⟩

section

variable (h : Succeeds disk disk₁ path info root t) (htree : disk.tree.isProper)

include h htree

/-- All but the pages of documented folders is as it was. -/
theorem Succeeds.kept {other : List String}
    (hother : ∀ place ∈ documented disk.isFile t, other ≠ root ++ place ++ [pageName]) :
    disk₁.tree.look other = disk.tree.look other := by
  rw [h.result]
  exact (look_withPages (fun _ hplace => (documented_below htree h.tree hplace).2) h.free).2 other hother

private theorem Succeeds.leads_after (hplace : place ∈ documented disk.isFile t) :
    disk₁.Leads (place.foldl Path.join path) (root ++ place) := by
  obtain ⟨hnames, hfolder⟩ := documented_below htree h.tree hplace
  refine (h.leads.foldl_join hnames hfolder).mono (by rw [h.result]) fun other hother => ?_
  rw [h.result]
  exact folder_withPages (fun _ hplace => (documented_below htree h.tree hplace).2) h.free hother

theorem Succeeds.written (hplace : place ∈ documented disk.isFile t) :
    disk₁.node (Path.join (place.foldl Path.join path) pageName) =
      .ok (.file (Text.Utf8.encode (pageAt disk.isFile path path t place).text)) := by
  rw [(h.leads_after htree hplace).node_join isName_pageName, ← FileTree.look_eq_file, h.result]
  exact (look_withPages (fun _ hplace => (documented_below htree h.tree hplace).2) h.free).1 place hplace

/-- The folders of the pages are all different. -/
theorem Succeeds.nodup_folders : ((draft info (.text path)).pages.map Page.folder).Nodup := by
  rw [folders_of_draft h.record ((draft_follows h.record path).fault.trans h.fault)]
  have ht := (FileTree.isProper.names_of_at? htree h.tree).1
  refine List.pairwise_map.2 ((nodup_documented ht).imp_of_mem fun {place place'} hplace hplace' hne heq => hne ?_)
  -- the path leads to both places
  have hwalk := (h.leads_after htree hplace).walk
  rw [heq, (h.leads_after htree hplace').walk] at hwalk
  exact (List.append_cancel_left (Except.ok.inj hwalk)).symm

end

end Docsmith.Docs
