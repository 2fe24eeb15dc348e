import Docsmith.Proofs.Docs.Pages
import Docsmith.Proofs.Docs.View

/-!
# Documenting twice

A run from the documented folder writes nothing but pages, one into each folder that it documents (`Published`), and
none of these is looked at by a second run: the page of the documented folder itself hides the others
(`folderRecord_withoutPages`).  So the second run drafts the same pages and finds them written (`document_again`).
-/

namespace Docsmith.Docs

/-! ### Trees without pages -/

mutual

/-- A tree without the files that have the name of a page. -/
def withoutPages : FileTree → FileTree
  | .file bytes => .file bytes
  | .folder es => .folder (withoutPagesIn es)

/-- The entries of a folder without pages. -/
def withoutPagesIn : List (String × FileTree) → List (String × FileTree)
  | [] => []
  | (name, t) :: es =>
    if name = pageName ∧ t.isFile then withoutPagesIn es else (name, withoutPages t) :: withoutPagesIn es

end

variable {t u x : FileTree} {es : Fields FileTree} {name : String} {place : List String}

private theorem get?_withoutPagesIn (h : es.get? name = some t) (hkept : ¬ (name = pageName ∧ t.isFile)) :
    Fields.get? name (withoutPagesIn es) = some (withoutPages t) := by
  induction es with
  | nil => cases h
  | cons e es ih =>
    obtain ⟨k, u⟩ := e
    by_cases hk : k = name
    · subst hk
      obtain rfl : u = t := by simpa [Fields.get?] using h
      simp [withoutPagesIn, hkept, Fields.get?]
    · have := ih (by simpa [Fields.get?, hk] using h)
      rw [withoutPagesIn]
      split
      next => exact this
      next => simpa [Fields.get?, hk] using this

private theorem filter_names_withoutPagesIn {p : String → Bool} (hp : p pageName = false) :
    (Fields.names (withoutPagesIn es)).filter p = es.names.filter p := by
  induction es with
  | nil => rfl
  | cons e es ih =>
    obtain ⟨k, u⟩ := e
    have hnames : ∀ (v : FileTree) (fs : Fields FileTree), Fields.names ((k, v) :: fs) = k :: Fields.names fs :=
      fun _ _ => rfl
    rw [withoutPagesIn]
    split
    next hpage => rw [hnames, List.filter_cons_of_neg (by rw [hpage.1, hp]; exact Bool.false_ne_true), ih]
    next => rw [hnames, hnames, List.filter_cons, List.filter_cons, ih]

private theorem withoutPagesIn_insert_page (bytes : List Nat) (es : Fields FileTree) :
    withoutPagesIn (FileTree.insert pageName (.file bytes) es) = withoutPagesIn es := by
  have hpage : ∀ es, withoutPagesIn ((pageName, .file bytes) :: es) = withoutPagesIn es := fun es => if_pos ⟨rfl, rfl⟩
  induction es with
  | nil => exact hpage []
  | cons e es ih =>
    obtain ⟨k, u⟩ := e
    rw [FileTree.insert]
    split
    · exact hpage _
    · rw [withoutPagesIn, withoutPagesIn, ih]

/-- Putting a tree in the place of another does not show if both are pages, or the same without pages. -/
private theorem withoutPagesIn_put (h : es.get? name = some u)
    (hsame : name = pageName ∧ u.isFile ∧ x.isFile ∨ ¬ u.isFile ∧ ¬ x.isFile ∧ withoutPages x = withoutPages u) :
    withoutPagesIn (es.put name x) = withoutPagesIn es := by
  induction es with
  | nil => cases h
  | cons e es ih =>
    obtain ⟨k, w⟩ := e
    by_cases hk : k = name
    · obtain rfl : w = u := by simpa [Fields.get?, hk] using h
      rcases hsame with ⟨hname, hu, hx⟩ | ⟨hu, hx, hsame⟩
      · simp [Fields.put, hk, hname, withoutPagesIn, hu, hx]
      · simp [Fields.put, hk, withoutPagesIn, hu, hx, hsame]
    · have := ih (by simpa [Fields.get?, hk] using h)
      simp [Fields.put, hk, withoutPagesIn, this]

/-- A page that is entered into a folder does not show. -/
private theorem withoutPagesIn_enter_page (hfree : ∀ t, es.get? pageName = some t → t.isFile) (bytes : List Nat) :
    withoutPagesIn (FileTree.enter pageName (.file bytes) es) = withoutPagesIn es := by
  cases hold : es.get? pageName with
  | none =>
    rw [FileTree.enter, if_neg (by simp [Fields.has, hold]), withoutPagesIn_insert_page]
  | some u =>
    rw [FileTree.enter_of_some hold]
    exact withoutPagesIn_put hold (.inl ⟨rfl, hfree u hold, rfl⟩)

private theorem not_isFile_of_kind (h : t.kind = .folder) : ¬ t.isFile := by
  cases t with
  | file bytes => cases h
  | folder es => exact Bool.false_ne_true

private theorem withoutPages_put (hfolder : t.look place = some .folder)
    (hfree : t.look (place ++ [pageName]) ≠ some .folder) (bytes : List Nat) :
    withoutPages (t.put (place ++ [pageName]) (.file bytes)) = withoutPages t := by
  induction place generalizing t with
  | nil =>
    cases t with
    | file old => cases hfolder
    | folder es =>
      rw [List.nil_append, FileTree.put, FileTree.put, withoutPages, withoutPages]
      refine congrArg FileTree.folder (withoutPagesIn_enter_page (fun t ht => ?_) bytes)
      cases t with
      | file old => rfl
      | folder es' =>
        refine absurd ?_ hfree
        rw [List.nil_append, FileTree.look_cons]
        exact congrArg (Option.bind · (FileTree.look [])) ht
  | cons n place ih =>
    cases t with
    | file old => cases hfolder
    | folder es =>
      rw [FileTree.look_cons] at hfolder
      obtain ⟨sub, hsub, hinner⟩ := Option.bind_eq_some_iff.1 hfolder
      rw [List.cons_append, FileTree.look_cons, hsub] at hfree
      rw [List.cons_append, FileTree.put, hsub, Option.getD_some, withoutPages, withoutPages,
        FileTree.enter_of_some hsub]
      refine congrArg FileTree.folder (withoutPagesIn_put hsub (.inr ⟨?_, ?_, ih hinner hfree⟩))
      · exact not_isFile_of_kind (FileTree.kind_of_look hinner)
      · cases place <;> exact Bool.false_ne_true

private theorem at?_withoutPages (h : t.at? place = some (.folder es)) :
    (withoutPages t).at? place = some (withoutPages (.folder es)) := by
  induction place generalizing t with
  | nil =>
    cases h
    rfl
  | cons n place ih =>
    cases t with
    | file old => cases h
    | folder es' =>
      rw [FileTree.at?] at h
      obtain ⟨sub, hsub, hat⟩ := Option.bind_eq_some_iff.1 h
      have hkind : ¬ sub.isFile := not_isFile_of_kind (FileTree.kind_of_look (FileTree.look_eq_folder.2 ⟨es, hat⟩))
      have hget : Fields.get? n (withoutPagesIn es') = some (withoutPages sub) :=
        get?_withoutPagesIn hsub fun hpage => hkind hpage.2
      rw [withoutPages, FileTree.at?, FileTree.child?, FileTree.entries, hget]
      exact ih hat

private theorem sourceRecord_withoutPages (path : String) (t : FileTree) :
    sourceRecord path (withoutPages t) = sourceRecord path t := by
  cases t <;> rfl

/-- If pages are hidden the record of a folder does not depend on them. -/
private theorem folderRecord_withoutPages {isHidden : String → Bool} (hhidden : isHidden pageName) (path : String)
    (t : FileTree) : folderRecord isHidden path (withoutPages t) = folderRecord isHidden path t := by
  induction t using FileTree.induction generalizing path with
  | file bytes => rfl
  | folder es ih =>
    have hsource : isSourceName pageName = false := by decide
    have hfolder : isFolderName isHidden pageName = false := by simp [isFolderName, hhidden]
    have hsources : sourceNames (withoutPagesIn es) = sourceNames es := by
      rw [sourceNames, sourceNames, filter_names_withoutPagesIn hsource]
    have hfolders : folderNames isHidden (withoutPagesIn es) = folderNames isHidden es := by
      rw [folderNames, folderNames, filter_names_withoutPagesIn hfolder]
    have hget : ∀ {n t}, n ≠ pageName → Fields.get? n es = some t →
        Fields.get? n (withoutPagesIn es) = some (withoutPages t) :=
      fun hne ht => get?_withoutPagesIn ht fun hpage => hne hpage.1
    have hsourceRecords : ∀ n ∈ sourceNames (withoutPagesIn es),
        (sourceRecords path (withoutPagesIn es)).get? n = (sourceRecords path es).get? n := by
      intro n hn
      rw [hsources] at hn
      obtain ⟨⟨t, ht⟩, hname⟩ := mem_sourceNames.1 hn
      have hne : n ≠ pageName := by
        rintro rfl
        rw [hsource] at hname
        cases hname
      rw [get?_sourceRecords hname, get?_sourceRecords hname, hget hne ht, ht, Option.map_some, Option.map_some,
        sourceRecord_withoutPages]
    have hfolderRecords : ∀ n ∈ folderNames isHidden (withoutPagesIn es),
        Fields.get? n (folderRecords isHidden path (withoutPagesIn es)) =
          Fields.get? n (folderRecords isHidden path es) := by
      intro n hn
      rw [hfolders] at hn
      obtain ⟨⟨t, ht⟩, hname⟩ := mem_folderNames.1 hn
      have hne : n ≠ pageName := by
        rintro rfl
        rw [hfolder] at hname
        cases hname
      rw [get?_folderRecords hname, get?_folderRecords hname, hget hne ht, ht, Option.map_some, Option.map_some,
        ih n t ht]
    rw [withoutPages]
    exact folderRecord_folder_congr hsources hfolders hsourceRecords hfolderRecords

/-! ### Writing pages -/

/-- The place of a page's folder. -/
def Page.IsAt (page : Page) (place : List String) : Prop :=
  (∀ n ∈ place, Path.IsName n) ∧ page.folder = Path.ofPlace place

private theorem Page.IsAt.folder_ne {page page' : Page} {place place' : List String} (h : page.IsAt place)
    (h' : page'.IsAt place') (hne : page.folder ≠ page'.folder) : place ++ [pageName] ≠ place' ++ [pageName] := by
  intro heq
  rw [h.2, h'.2, List.append_cancel_right heq] at hne
  exact hne rfl

private theorem Page.IsAt.unique {page : Page} {place place' : List String} (h : page.IsAt place)
    (h' : page.IsAt place') :
    place = place' := Path.ofPlace_injective h.1 h'.1 (h.2.symm.trans h'.2)

variable {disk disk' disk₁ : Disk} {page : Page} {pages : List Page}

/-- What is written when pages are written: each page into its folder, and nothing else. -/
structure Published (pages : List Page) (disk disk₁ : Disk) : Prop where
  current : disk₁.current = disk.current
  free : ∀ page ∈ pages, ∀ place, page.IsAt place →
    disk.tree.look place = some .folder ∧ disk.tree.look (place ++ [pageName]) ≠ some .folder
  written : ∀ page ∈ pages, ∀ place, page.IsAt place →
    disk₁.tree.look (place ++ [pageName]) = some (.file (Text.Utf8.encode page.text))
  kept : ∀ other, (∀ page ∈ pages, ∀ place, page.IsAt place → other ≠ place ++ [pageName]) →
    disk₁.tree.look other = disk.tree.look other
  bare : withoutPages disk₁.tree = withoutPages disk.tree

private theorem Published.folder_kept (h : Published pages disk disk₁) {place : List String}
    (hfolder : disk.tree.look place = some .folder) : disk₁.tree.look place = some .folder := by
  rw [h.kept place, hfolder]
  rintro page hpage place' hat rfl
  exact (h.free page hpage place' hat).2 hfolder

theorem publish_cons_ok (h : publish (page :: pages) disk = (disk₁, .ok ())) :
    ∃ disk', disk.write page.folder pageName (Text.Utf8.encode page.text) = .ok disk' ∧
      publish pages disk' = (disk₁, .ok ()) := by
  rw [publish] at h
  cases hwrite : disk.write page.folder pageName (Text.Utf8.encode page.text) with
  | error fault => simp [hwrite] at h
  | ok disk' => exact ⟨disk', rfl, by simpa [hwrite] using h⟩

/-- Writing one more page before the others. -/
private theorem Published.cons {place : List String} (hat : page.IsAt place)
    (hfolder : disk.tree.look place = some .folder)
    (hfree : disk.tree.look (place ++ [pageName]) ≠ some .folder) (hnew : page.folder ∉ pages.map Page.folder)
    (h : Published pages
      { disk with tree := disk.tree.put (place ++ [pageName]) (.file (Text.Utf8.encode page.text)) } disk₁) :
    Published (page :: pages) disk disk₁ := by
  have hlook := FileTree.look_put hfolder hfree (Text.Utf8.encode page.text)
  have hother : ∀ page' ∈ pages, ∀ place', page'.IsAt place' → place ++ [pageName] ≠ place' ++ [pageName] :=
    fun page' hpage' place' hat' =>
      hat.folder_ne hat' fun heq => hnew (heq ▸ List.mem_map_of_mem hpage')
  refine ⟨h.current, ?_, ?_, ?_, h.bare.trans (withoutPages_put hfolder hfree _)⟩
  · intro page' hpage' place' hat'
    rcases List.mem_cons.1 hpage' with rfl | hpage'
    · cases hat.unique hat'
      exact ⟨hfolder, hfree⟩
    · obtain ⟨hfolder', hfree'⟩ := h.free page' hpage' place' hat'
      constructor
      · -- the new page is a file, so the folder stands at another place
        rw [hlook] at hfolder'
        split at hfolder'
        next => cases hfolder'
        next => exact hfolder'
      · rwa [hlook, if_neg (hother page' hpage' place' hat').symm] at hfree'
  · intro page' hpage' place' hat'
    rcases List.mem_cons.1 hpage' with rfl | hpage'
    · cases hat.unique hat'
      rw [h.kept _ hother, hlook, if_pos rfl]
    · exact h.written page' hpage' place' hat'
  · intro other hne
    obtain ⟨hhead, htail⟩ := List.forall_mem_cons.1 hne
    rw [h.kept other htail, hlook, if_neg (hhead place hat)]

private theorem published_of_publish (hroot : disk.tree.kind = .folder)
    (hplaces : ∀ page ∈ pages, ∃ place, page.IsAt place)
    (hnodup : (pages.map Page.folder).Nodup) (h : publish pages disk = (disk₁, .ok ())) :
    Published pages disk disk₁ := by
  induction pages generalizing disk with
  | nil =>
    cases h
    exact ⟨rfl, nofun, nofun, fun _ _ => rfl, rfl⟩
  | cons page pages ih =>
    obtain ⟨⟨place, hat⟩, hplaces⟩ := List.forall_mem_cons.1 hplaces
    obtain ⟨hnew, hnodup⟩ := List.nodup_cons.1 hnodup
    obtain ⟨disk', hwrite, hrest⟩ := publish_cons_ok h
    rw [hat.2, Disk.write_ofPlace hat.1 isName_pageName hroot] at hwrite
    obtain ⟨hfolder, hfree, rfl⟩ := hwrite
    have hlook := FileTree.look_put hfolder hfree (Text.Utf8.encode page.text)
    have hroot' : (disk.tree.put (place ++ [pageName]) (.file (Text.Utf8.encode page.text))).kind = .folder := by
      have hnil := hlook []
      rw [if_neg (by simp), FileTree.look_nil, FileTree.look_nil, hroot] at hnil
      exact Option.some.inj hnil
    exact Published.cons hat hfolder hfree hnew (ih hroot' hplaces hnodup hrest)

/-- Pages that are written are not changed by writing them again. -/
private theorem Published.publish_again (hroot : disk₁.tree.kind = .folder)
    (hplaces : ∀ page ∈ pages, ∃ place, page.IsAt place) (h : Published pages disk disk₁) :
    publish pages disk₁ = (disk₁, .ok ()) := by
  have hwrite : ∀ page ∈ pages, disk₁.write page.folder pageName (Text.Utf8.encode page.text) = .ok disk₁ := by
    intro page hpage
    obtain ⟨place, hat⟩ := hplaces page hpage
    have hfile := h.written page hpage place hat
    rw [hat.2, Disk.write_ofPlace hat.1 isName_pageName hroot, hfile,
      FileTree.put_of_at? (FileTree.look_eq_file.1 hfile)]
    exact ⟨h.folder_kept (h.free page hpage place hat).1, nofun, rfl⟩
  clear h hplaces
  induction pages with
  | nil => rfl
  | cons page pages ih =>
    obtain ⟨hpage, hwrite⟩ := List.forall_mem_cons.1 hwrite
    simp only [publish, hpage, ih hwrite]

/-! ### The second run -/

/-- If the same entries of all documented folders are taken for folders, the view is the same. -/
theorem sameView_of_documented {isHidden isHidden' : String → Bool} {path : String}
    (h : ∀ place ∈ documented isHidden t, ∀ name u, t.at? (place ++ [name]) = some u →
      isFolderName isHidden name = isFolderName isHidden' name) : SameView isHidden isHidden' path t := by
  induction t using FileTree.induction generalizing path with
  | file bytes => exact .file path bytes
  | folder es ih =>
    have hinner : ∀ name t, es.get? name = some t → isFolderName isHidden name →
        SameView isHidden isHidden' (Path.join path name) t := by
      intro name t ht hname
      refine ih name t ht fun place hplace n u hu => ?_
      refine h (name :: place) (mem_documented.2 (.inr ⟨name, t, place, ht, hname, hplace, rfl⟩)) n u ?_
      rw [List.cons_append, FileTree.at?, FileTree.child?, FileTree.entries, ht]
      exact hu
    refine .folder path es ?_ (fun name t ht hname _ => hinner name t ht hname) fun name t ht hname _ => ?_
    · intro name t ht
      exact h [] (mem_documented.2 (.inl rfl)) name t (by rw [FileTree.at?_concat rfl, ht])
    · rw [folderRecord_congr (hinner name t ht hname)]

/-- Of a run without a fault, every entry of a documented folder that is taken for a folder is documented. -/
theorem documented_entry {isHidden : String → Bool} {path : String} {v : Value}
    (hrecord : folderRecord isHidden path t = .ok v) (hplace : place ∈ documented isHidden t)
    (hu : t.at? (place ++ [name]) = some u) (hname : isFolderName isHidden name) :
    place ++ [name] ∈ documented isHidden t := by
  induction t using FileTree.induction generalizing path v place with
  | file bytes =>
    rw [folderRecord] at hrecord
    cases hrecord
  | folder es ih =>
    obtain ⟨_, _, hes, -, hfields⟩ := folderRecord_ok hrecord
    cases hes
    rcases mem_documented.1 hplace with rfl | ⟨n, t, rest, ht, hn, hrest, rfl⟩
    · rw [FileTree.at?_concat rfl] at hu
      obtain ⟨t, v, ht, hv, -⟩ := hfields.folder name (mem_folderNames.2 ⟨⟨u, hu⟩, hname⟩)
      obtain ⟨es', _, rfl, -, -⟩ := folderRecord_ok hv
      exact mem_documented.2 (.inr ⟨name, _, [], ht, hname, mem_documented.2 (.inl rfl), rfl⟩)
    · obtain ⟨_, v, ht', hv, -⟩ := hfields.folder n (mem_folderNames.2 ⟨⟨t, ht⟩, hn⟩)
      cases ht'.symm.trans ht
      rw [List.cons_append, FileTree.at?, FileTree.child?, FileTree.entries, ht] at hu
      exact mem_documented.2 (.inr ⟨n, t, rest ++ [name], ht, hn, ih n t ht hv hrest hu, rfl⟩)

/-- A run that succeeds is a record, a draft without a fault, and the pages of the draft. -/
theorem Draft.publish_eq_ok {d : Draft} :
    d.publish disk = (disk₁, .ok ()) ↔ d.fault? = none ∧ Docs.publish d.pages disk = (disk₁, .ok ()) := by
  rw [Draft.publish]
  rcases Docs.publish d.pages disk with ⟨disk', _ | _⟩
  · simp
  · cases d.fault? <;> simp

theorem document_eq_ok {path : String} :
    document path disk = (disk₁, .ok ()) ↔
      ∃ info, folderRecordAt disk path = .ok info ∧ (draft info (.text path)).fault? = none ∧
        publish (draft info (.text path)).pages disk = (disk₁, .ok ()) := by
  unfold document
  cases folderRecordAt disk path with
  | error fault => simp
  | ok info => simp only [Draft.publish_eq_ok, Except.ok.injEq, exists_eq_left']

/-- What a run from the documented folder finds, and what it leaves. -/
structure Documents (disk disk₁ : Disk) (es : Fields FileTree) (info : Value) (pages : List Page) : Prop where
  folder : disk.tree.at? disk.current = some (.folder es)
  record : folderRecord disk.isFile (Path.ofPlace disk.current) (.folder es) = .ok info
  place : ∀ page ∈ pages, ∃ place ∈ documented disk.isFile (.folder es), page.IsAt (disk.current ++ place)
  page : ∀ place ∈ documented disk.isFile (.folder es), ∃ page ∈ pages, page.IsAt (disk.current ++ place)
  published : Published pages disk disk₁

/-- The path to a documented folder is that of its place. -/
private theorem foldl_join_documented {current : List String} (htree : t.isProper)
    (hes : t.at? current = some (.folder es))
    (isHidden : String → Bool) (place : List String) (hplace : place ∈ documented isHidden (.folder es)) :
    (∀ n ∈ current ++ place, Path.IsName n) ∧
      place.foldl Path.join (Path.ofPlace current) = Path.ofPlace (current ++ place) := by
  obtain ⟨hfolder, hcurrent⟩ := FileTree.isProper.names_of_at? htree hes
  obtain ⟨es', hes'⟩ := FileTree.look_eq_folder.1 (look_of_mem_documented hplace)
  have hnames := (FileTree.isProper.names_of_at? hfolder hes').2
  exact ⟨List.forall_mem_append.2 ⟨hcurrent, hnames⟩, Path.foldl_join_ofPlace hcurrent hnames⟩

private theorem documents_of_document (hproper : disk.isProper)
    (h : document (Path.ofPlace disk.current) disk = (disk₁, .ok ())) :
    ∃ es info, Documents disk disk₁ es info (draft info (.text (Path.ofPlace disk.current))).pages ∧
      (draft info (.text (Path.ofPlace disk.current))).fault? = none := by
  obtain ⟨htree, hlook⟩ := Disk.isProper_iff.1 hproper
  obtain ⟨es, hes⟩ := FileTree.look_eq_folder.1 hlook
  obtain ⟨hfolder, hcurrent⟩ := FileTree.isProper.names_of_at? htree hes
  have hroot := FileTree.kind_of_look hlook
  obtain ⟨info, hinfo, hfault, hpublish⟩ := document_eq_ok.1 h
  have hrecord : folderRecord disk.isFile (Path.ofPlace disk.current) (.folder es) = .ok info := by
    rwa [folderRecordAt, (Disk.node_ofPlace hroot hcurrent).2 hes] at hinfo
  have hfolders := folders_of_draft hrecord hfault
  have hat := fun place => foldl_join_documented htree hes disk.isFile place
  have hplace : ∀ page ∈ (draft info (.text (Path.ofPlace disk.current))).pages,
      ∃ place ∈ documented disk.isFile (.folder es), page.IsAt (disk.current ++ place) := by
    intro page hpage
    have hmem := List.mem_map_of_mem (f := Page.folder) hpage
    rw [hfolders] at hmem
    obtain ⟨place, hplace, heq⟩ := List.mem_map.1 hmem
    exact ⟨place, hplace, (hat place hplace).1, heq.symm.trans (hat place hplace).2⟩
  have hpage : ∀ place ∈ documented disk.isFile (.folder es),
      ∃ page ∈ (draft info (.text (Path.ofPlace disk.current))).pages, page.IsAt (disk.current ++ place) := by
    intro place hplace
    have hmem := List.mem_map_of_mem (f := fun q => q.foldl Path.join (Path.ofPlace disk.current)) hplace
    rw [← hfolders] at hmem
    obtain ⟨page, hpage, heq⟩ := List.mem_map.1 hmem
    exact ⟨page, hpage, (hat place hplace).1, heq.trans (hat place hplace).2⟩
  have hnodup : ((draft info (.text (Path.ofPlace disk.current))).pages.map Page.folder).Nodup := by
    rw [hfolders]
    refine List.pairwise_map.2 ((nodup_documented hfolder).imp_of_mem fun {place place'} hplace hplace' hne heq => ?_)
    rw [(hat place hplace).2, (hat place' hplace').2] at heq
    exact hne (List.append_cancel_left (Path.ofPlace_injective (hat place hplace).1 (hat place' hplace').1 heq))
  have hplaces : ∀ page ∈ (draft info (.text (Path.ofPlace disk.current))).pages, ∃ place, page.IsAt place :=
    fun page hmem => let ⟨place, _, hat⟩ := hplace page hmem; ⟨_, hat⟩
  exact ⟨es, info, ⟨hes, hrecord, hplace, hpage, published_of_publish hroot hplaces hnodup hpublish⟩, hfault⟩

section

variable {info : Value} (h : Documents disk disk₁ es info pages)

include h

private theorem Documents.look_current : disk.tree.look disk.current = some .folder :=
  FileTree.look_eq_folder.2 ⟨es, h.folder⟩

private theorem Documents.look_current_again : disk₁.tree.look disk₁.current = some .folder := by
  rw [h.published.current]
  exact h.published.folder_kept h.look_current

private theorem Documents.isFile_pageName : disk₁.isFile pageName := by
  obtain ⟨page, hpage, hat⟩ := h.page [] (mem_documented.2 (.inl rfl))
  rw [List.append_nil, ← h.published.current] at hat
  exact (Disk.isFile_name isName_pageName h.look_current_again).2 ⟨_, h.published.written page hpage _ hat⟩

private theorem Documents.isFile_kept (hname : Path.IsName name) (hne : name ≠ pageName) :
    disk.isFile name = disk₁.isFile name := by
  have hkept : disk₁.tree.look (disk₁.current ++ [name]) = disk.tree.look (disk.current ++ [name]) := by
    rw [h.published.current]
    refine h.published.kept _ fun page _ place _ heq => hne ?_
    exact List.singleton_inj.1 (List.append_inj_right' heq rfl)
  rw [Bool.eq_iff_iff, Disk.isFile_name hname h.look_current, Disk.isFile_name hname h.look_current_again, hkept]

/-- A documented folder has no page before the run, unless pages are hidden anyway. -/
private theorem Documents.no_page (hshown : ¬ disk.isFile pageName)
    (hplace : place ∈ documented disk.isFile (.folder es)) :
    (FileTree.folder es).at? (place ++ [pageName]) = none := by
  refine Option.eq_none_iff_forall_ne_some.2 fun u hu => ?_
  have hname : isFolderName disk.isFile pageName := by
    have hsource : isSourceName pageName = false := by decide
    have hignored : ignoredFolders.contains pageName = false := by decide
    rw [isFolderName, hsource, hignored, Bool.eq_false_iff.2 hshown]
    rfl
  -- the entry is documented, so it is a folder, and a page cannot be written in its place
  have hfolder := look_of_mem_documented (documented_entry h.record hplace hu hname)
  obtain ⟨page, hpage, hat⟩ := h.page place hplace
  refine (h.published.free page hpage _ hat).2 ?_
  rw [List.append_assoc, FileTree.look, FileTree.at?_append, h.folder]
  exact hfolder

private theorem Documents.isFolderName_kept {u : FileTree} (hproper : disk.isProper)
    (hplace : place ∈ documented disk.isFile (.folder es))
    (hu : (FileTree.folder es).at? (place ++ [name]) = some u) :
    isFolderName disk.isFile name = isFolderName disk₁.isFile name := by
  suffices hfile : disk.isFile name = disk₁.isFile name by rw [isFolderName, isFolderName, hfile]
  by_cases hne : name = pageName
  · subst hne
    by_cases hshown : disk.isFile pageName
    · rw [hshown, h.isFile_pageName]
    · rw [h.no_page hshown hplace] at hu
      cases hu
  · have hfolder := (FileTree.isProper.names_of_at? (Disk.isProper_iff.1 hproper).1 h.folder).1
    have hname := (FileTree.isProper.names_of_at? hfolder hu).2 name (by simp)
    exact h.isFile_kept hname hne

/-- The second run finds the same record. -/
private theorem Documents.record_again (hproper : disk.isProper) :
    folderRecordAt disk₁ (Path.ofPlace disk.current) = .ok info := by
  have hcurrent := (FileTree.isProper.names_of_at? (Disk.isProper_iff.1 hproper).1 h.folder).2
  obtain ⟨es₁, hes₁⟩ := FileTree.look_eq_folder.1 (h.published.folder_kept h.look_current)
  have hroot₁ : disk₁.tree.kind = .folder := FileTree.kind_of_look h.look_current_again
  have hbare : withoutPages (.folder es₁) = withoutPages (.folder es) := by
    have hat := at?_withoutPages hes₁
    rw [h.published.bare, at?_withoutPages h.folder] at hat
    exact (Option.some.inj hat).symm
  have hview : SameView disk.isFile disk₁.isFile (Path.ofPlace disk.current) (.folder es) :=
    sameView_of_documented fun place hplace name u hu => h.isFolderName_kept hproper hplace hu
  rw [folderRecordAt, (Disk.node_ofPlace hroot₁ hcurrent).2 hes₁]
  calc folderRecord disk₁.isFile (Path.ofPlace disk.current) (.folder es₁)
      = folderRecord disk₁.isFile (Path.ofPlace disk.current) (withoutPages (.folder es₁)) :=
        (folderRecord_withoutPages h.isFile_pageName _ _).symm
    _ = folderRecord disk₁.isFile (Path.ofPlace disk.current) (withoutPages (.folder es)) := by rw [hbare]
    _ = folderRecord disk₁.isFile (Path.ofPlace disk.current) (.folder es) :=
        folderRecord_withoutPages h.isFile_pageName _ _
    _ = folderRecord disk.isFile (Path.ofPlace disk.current) (.folder es) := (folderRecord_congr hview).symm
    _ = .ok info := h.record

end

/-- A run from the documented folder that succeeds leaves a page in every folder that it documents, and a second run
succeeds and changes nothing. -/
theorem document_again (hproper : disk.isProper)
    (h : document (Path.ofPlace disk.current) disk = (disk₁, .ok ())) :
    disk₁.current = disk.current ∧
    (∀ t, disk.tree.at? disk.current = some t → ∀ place ∈ documented disk.isFile t,
      ∃ bytes, disk₁.tree.at? (disk.current ++ place ++ [pageName]) = some (.file bytes)) ∧
    document (Path.ofPlace disk.current) disk₁ = (disk₁, .ok ()) := by
  obtain ⟨es, info, hrun, hfault⟩ := documents_of_document hproper h
  refine ⟨hrun.published.current, ?_, ?_⟩
  · intro t ht place hplace
    cases hrun.folder.symm.trans ht
    obtain ⟨page, hpage, hat⟩ := hrun.page place hplace
    exact ⟨_, FileTree.look_eq_file.1 (hrun.published.written page hpage _ hat)⟩
  · have hroot₁ : disk₁.tree.kind = .folder := FileTree.kind_of_look hrun.look_current_again
    have hplaces : ∀ page ∈ (draft info (.text (Path.ofPlace disk.current))).pages, ∃ place, page.IsAt place :=
      fun page hpage => let ⟨_, _, hat⟩ := hrun.place page hpage; ⟨_, hat⟩
    exact document_eq_ok.2 ⟨info, hrun.record_again hproper, hfault, hrun.published.publish_again hroot₁ hplaces⟩

/-- A disk with a documented folder, which has a file that hides one of the same name further in. -/
def Sample.home : Disk :=
  { tree := .folder
      [("home", .folder [("todo", .file [120]),
        ("inner", .folder [("todo", .file []), ("deep", .empty), ("env", .file [])])])],
    current := ["home"] }

theorem sample_document_again :
    Sample.home.isProper ∧ (document (Path.ofPlace Sample.home.current) Sample.home).2.isOk ∧
    ["inner", "deep"] ∈ documented Sample.home.isFile ((Sample.home.tree.child? "home").getD .empty) ∧
    document (Path.ofPlace Sample.home.current) (document (Path.ofPlace Sample.home.current) Sample.home).1 =
      ((document (Path.ofPlace Sample.home.current) Sample.home).1, .ok ()) := by
  have hproper : Sample.home.isProper := by decide +kernel
  have hok : (document (Path.ofPlace Sample.home.current) Sample.home).2.isOk = true := by decide +kernel
  exact ⟨hproper, hok, by decide +kernel,
    (document_again hproper (Prod.ext rfl (Outcome.eq_ok_of_isOk hok))).2.2⟩

end Docsmith.Docs
