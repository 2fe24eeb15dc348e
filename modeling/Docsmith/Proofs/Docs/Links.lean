import Docsmith.Proofs.Docs.Writing
import Docsmith.Proofs.FileTree.Way
import Docsmith.Proofs.Text.Search

/-!
# Links between pages

A link is what is left of the path of a folder when that of the folder it is in is taken away.  If the path occurs only
once, that is the way to the folder (`remainder_foldl_join`), and the link leads to the folder's page
(`join_linkTarget`).  A path from the root with two names has two slashes, and so has every path below it; the way to
a folder has at most one (`remainder_join`).  So every link leads to a page of the same run (`document_links`).
-/

namespace Docsmith

namespace FileTree

mutual

/-- Whether no name in a tree has a backslash. -/
def isPlain : FileTree → Bool
  | .file _ => true
  | .folder es => isPlainIn es

/-- Whether no name in the entries of a folder has a backslash. -/
def isPlainIn : List (String × FileTree) → Bool
  | [] => true
  | (name, t) :: es => decide ('\\' ∉ name.toList) && isPlain t && isPlainIn es

end

private theorem isPlainIn_of_get? {es : Fields FileTree} {name : String} {t : FileTree} (h : isPlainIn es)
    (ht : es.get? name = some t) : '\\' ∉ name.toList ∧ t.isPlain := by
  induction es with
  | nil => cases ht
  | cons e es ih =>
    obtain ⟨k, u⟩ := e
    simp only [isPlainIn, Bool.and_eq_true, decide_eq_true_eq] at h
    rw [Fields.get?] at ht
    split at ht
    next hk =>
      cases ht
      exact hk ▸ h.1
    next => exact ih h.2 ht

/-- What stands at a place of a plain tree is plain, and so are the names on the way. -/
private theorem isPlain_of_at? {t u : FileTree} {place : List String} (h : t.isPlain) (hu : t.at? place = some u) :
    u.isPlain ∧ ∀ n ∈ place, '\\' ∉ n.toList := by
  induction place generalizing t with
  | nil =>
    cases hu
    exact ⟨h, fun n hn => nomatch hn⟩
  | cons a place ih =>
    rw [at?] at hu
    obtain ⟨sub, hsub, hat⟩ := Option.bind_eq_some_iff.1 hu
    cases t with
    | file bytes => cases hsub
    | folder es =>
      obtain ⟨hname, hplain⟩ := isPlainIn_of_get? (by rwa [isPlain] at h) hsub
      obtain ⟨hu, hplace⟩ := ih hplain hat
      exact ⟨hu, List.forall_mem_cons.2 ⟨hname, hplace⟩⟩

end FileTree

namespace Docs

/-! ### Targets -/

section

variable {path name : String}

/-- What is left of a path is the way from the path that is taken away if that does not occur in the way again. -/
theorem remainder_foldl_join (hne : path ≠ "") (names : List String) :
    remainder path (names.foldl Path.join path) = Path.way path names ↔ ¬ path.toList <:+: Path.way path names := by
  rw [remainder, Path.toList_foldl_join hne]
  exact Text.replaceAll_self_append_eq_iff (mt String.toList_eq_nil_iff.1 hne) _

private theorem remainder_join (hslashes : 2 ≤ path.toList.count '/') (hname : Path.IsName name) :
    remainder path (Path.join path name) = Path.way path [name] := by
  have hne : path ≠ "" := by
    rintro rfl
    exact absurd hslashes (by decide)
  have hnames : ∀ n ∈ [name], Path.IsName n := fun n hn => List.mem_singleton.1 hn ▸ hname
  refine (remainder_foldl_join hne [name]).2 fun hoccurs => ?_
  have hcount := hoccurs.sublist.count_le '/'
  have hway : (Path.way path [name]).count '/' ≤ 1 := Path.count_slash_way hnames path
  -- two slashes cannot occur in a text with one
  omega

theorem toList_join_way (hname : Path.IsName name) (path : String) :
    (Path.join (String.ofList (Path.way path [name])) pageName).toList =
      Path.way path [name] ++ '/' :: pageName.toList := by
  have hchars : name.toList ≠ [] := mt String.toList_eq_nil_iff.1 hname.1
  rw [Path.way_singleton, Path.toList_join (by simp [hname.1]), Path.gap_of_slash_not_mem hchars hname.2.2.2.1,
    String.toList_ofList]
  rfl

private theorem linkAlong_way (hname : Path.IsName name) (hplain : '\\' ∉ name.toList) (path : String) :
    linkAlong (Path.way path [name]) = name.toList ++ '/' :: pageName.toList := by
  obtain ⟨c, cs, hcs⟩ := List.exists_cons_of_ne_nil (mt String.toList_eq_nil_iff.1 hname.1)
  have hslash : ¬ '/' = c := by
    rintro rfl
    exact hname.2.2.2.1 (hcs ▸ List.mem_cons_self)
  have hgap : '\\' ∉ Path.gap path := by
    rcases Path.gap_cases path with h | h <;> simp [h]
  have hall : '\\' ∉ Path.way path [name] ++ '/' :: pageName.toList := by
    rw [Path.way_singleton, List.mem_append, List.mem_append, not_or, not_or]
    exact ⟨⟨hgap, hplain⟩, by decide⟩
  have hkept : ((Path.way path [name] ++ '/' :: pageName.toList).map fun c => if c = '\\' then '/' else c) =
      Path.way path [name] ++ '/' :: pageName.toList := by
    have hsame : ∀ d ∈ Path.way path [name] ++ '/' :: pageName.toList, (if d = '\\' then '/' else d) = id d := by
      intro d hd
      rw [if_neg (by rintro rfl; exact hall hd)]
      rfl
    rw [List.map_congr_left hsame, List.map_id]
  rw [linkAlong, toList_join_way hname]
  simp only [hkept]
  rw [Path.way_singleton, hcs]
  rcases Path.gap_cases path with h | h
  · simp [h, List.isPrefixOf, hslash]
  · simp [h, List.isPrefixOf]

/-- The page of a folder, by the link from the folder that it is in. -/
private theorem join_linkTarget (hne : path ≠ "") (hname : Path.IsName name) (hplain : '\\' ∉ name.toList)
    (h : remainder path (Path.join path name) = Path.way path [name]) :
    Path.join path (String.ofList (linkTarget path (Path.join path name))) =
      Path.join (Path.join path name) pageName := by
  rw [linkTarget, h, linkAlong_way hname hplain, ← String.toList_inj, Path.toList_join hne,
    Path.toList_join (Path.join_ne_empty hne name), Path.toList_join hne, Path.gap_join hname, String.toList_ofList]
  simp

end

/-! ### Records that are reached -/

/-- A record that is reached from another through the lists of folders, and the names on the way. -/
inductive Reached : Value → List String → Value → Prop
  | here (v : Value) : Reached v [] v
  | inner {fields : Fields Value} {names : List String} {name : String} {v record : Value} {place : List String} :
    fields.get? "_folders" = some (.list (names.map .text)) → name ∈ names → fields.get? name = some v →
      Reached v place record → Reached (.record fields) (name :: place) record

section

variable {isHidden : String → Bool} {path : String} {t : FileTree} {v record : Value} {place : List String}

/-- In a run without a fault the records of all documented folders are reached, and no others. -/
private theorem reached_iff (h : folderRecord isHidden path t = .ok v) (hcourse : (course isHidden t).fault? = none) :
    Reached v place record ↔ place ∈ documented isHidden t ∧
      ∃ u, t.at? place = some u ∧ folderRecord isHidden (place.foldl Path.join path) u = .ok record := by
  induction t using FileTree.induction generalizing path v place with
  | file bytes =>
    rw [folderRecord] at h
    cases h
  | folder es ih =>
    obtain ⟨_, fields, hes, rfl, hfields⟩ := folderRecord_ok h
    cases hes
    obtain ⟨-, hinner, -⟩ := course_folder_ok hcourse
    constructor
    · intro hreached
      cases hreached with
      | here => exact ⟨mem_documented.2 (.inl rfl), _, rfl, h⟩
      | inner hfolders hn hget hrest =>
        rename_i names n v rest
        obtain rfl : names = folderNames isHidden es :=
          map_text_inj (Value.list.inj (Option.some.inj (hfolders.symm.trans hfields.folders)))
        -- no list has taken the place of the record, or the run would have ended there
        obtain ⟨hlist, hfault⟩ := hinner n hn
        obtain ⟨t, v', ht, hv, hkept⟩ := hfields.folder n hn
        cases hget.symm.trans (hkept hlist)
        obtain ⟨hplace, u, hu, hrecord⟩ := (ih n t ht hv (hfault t ht)).1 hrest
        refine ⟨mem_documented.2 (.inr ⟨n, t, rest, ht, (mem_folderNames.1 hn).2, hplace, rfl⟩), u, ?_, hrecord⟩
        rw [FileTree.at?, FileTree.child?, FileTree.entries, ht]
        exact hu
    · rintro ⟨hplace, u, hu, hrecord⟩
      rcases mem_documented.1 hplace with rfl | ⟨n, t, rest, ht, hname, hrest, rfl⟩
      · cases hu
        cases h.symm.trans hrecord
        exact .here _
      · have hn : n ∈ folderNames isHidden es := mem_folderNames.2 ⟨⟨t, ht⟩, hname⟩
        obtain ⟨hlist, hfault⟩ := hinner n hn
        obtain ⟨t', v, ht', hv, hkept⟩ := hfields.folder n hn
        cases ht.symm.trans ht'
        rw [FileTree.at?, FileTree.child?, FileTree.entries, ht] at hu
        exact .inner hfields.folders hn (hkept hlist) ((ih n t ht hv (hfault t ht)).2 ⟨hrest, u, hu, hrecord⟩)

/-- The record of every documented folder is there. -/
private theorem record_of_documented (h : folderRecord isHidden path t = .ok v)
    (hplace : place ∈ documented isHidden t) :
    ∃ es fields, t.at? place = some (.folder es) ∧
      folderRecord isHidden (place.foldl Path.join path) (.folder es) = .ok (.record fields) := by
  induction t using FileTree.induction generalizing path v place with
  | file bytes =>
    rw [folderRecord] at h
    cases h
  | folder es ih =>
    obtain ⟨_, fields, hes, rfl, hfields⟩ := folderRecord_ok h
    cases hes
    rcases mem_documented.1 hplace with rfl | ⟨n, t, rest, ht, hname, hrest, rfl⟩
    · exact ⟨es, fields, rfl, h⟩
    · obtain ⟨t', v, ht', hv, -⟩ := hfields.folder n (mem_folderNames.2 ⟨⟨t, ht⟩, hname⟩)
      cases ht.symm.trans ht'
      rw [FileTree.at?, FileTree.child?, FileTree.entries, ht]
      exact ih n t ht hv hrest

end

/-! ### Pages and links -/

section

variable {disk disk₁ : Disk} {path : String} {info : Value} {root place : List String} {t : FileTree}
  (h : Succeeds disk disk₁ path info root t)

include h

/-- The folders that a run documents are those that are reached in its record. -/
private theorem Succeeds.documented_iff : place ∈ documented disk.isFile t ↔ ∃ record, Reached info place record := by
  constructor
  · intro hplace
    obtain ⟨es, fields, hes, hrecord⟩ := record_of_documented h.record hplace
    exact ⟨_, (reached_iff h.record h.fault).2 ⟨hplace, _, hes, hrecord⟩⟩
  · rintro ⟨record, hr⟩
    exact ((reached_iff h.record h.fault).1 hr).1

private theorem Succeeds.mem_folders_iff {folder : String} :
    folder ∈ (draft info (.text path)).pages.map Page.folder ↔
      ∃ place record, Reached info place record ∧ folder = place.foldl Path.join path := by
  rw [folders_of_draft h.record ((draft_follows h.record path).fault.trans h.fault), List.mem_map]
  constructor
  · rintro ⟨place, hplace, rfl⟩
    obtain ⟨record, hr⟩ := h.documented_iff.1 hplace
    exact ⟨place, record, hr, rfl⟩
  · rintro ⟨place, record, hr, rfl⟩
    exact ⟨place, h.documented_iff.2 ⟨record, hr⟩, rfl⟩

/-- The links on the page of a folder, below a path with two slashes. -/
private theorem Succeeds.map_linksOf (htree : disk.tree.isProper) (hslashes : 2 ≤ path.toList.count '/')
    (hplain : t.isPlain) {es : Fields FileTree} (hes : t.at? place = some (.folder es)) (base : String) :
    (linksOf disk.isFile base (place.foldl Path.join path) es).map (fun l =>
        Path.join (place.foldl Path.join path) (String.ofList l.target)) =
      (folderNames disk.isFile es).map fun n => Path.join ((place ++ [n]).foldl Path.join path) pageName := by
  have hproper := (FileTree.isProper.names_of_at? (FileTree.isProper.names_of_at? htree h.tree).1 hes).1
  have hslashes' := Nat.le_trans hslashes (Path.count_slash_le_foldl_join h.leads.ne place)
  rw [linksOf, List.map_map]
  refine List.map_congr_left fun n hn => ?_
  obtain ⟨⟨u, hu⟩, -⟩ := mem_folderNames.1 hn
  have hname := ((FileTree.isProper_folder hproper).2 n u hu).1
  have hplain' := (FileTree.isPlain_of_at? hplain ((FileTree.at?_concat hes n).trans hu)).2 n List.mem_concat_self
  rw [List.foldl_append, List.foldl_cons, List.foldl_nil, Function.comp_apply, target_linkTo]
  exact join_linkTarget (Path.foldl_join_ne_empty h.leads.ne place) hname hplain' (remainder_join hslashes' hname)

end

/-- A run that succeeds on a path from the root with at least two names, over a tree without backslashes in its names,
writes one page for every folder that is reached through the lists of folders, and nothing else.  The links on the page
of each of these folders lead to the pages of the folders in its list, in that order. -/
theorem document_links {disk disk₁ : Disk} {path : String} (htree : disk.tree.isProper)
    (habsolute : Path.isAbsolute path) (hnames : 2 ≤ ((Path.parts path).filter (· ≠ "")).length)
    (hplain : ∀ t, disk.node path = .ok t → t.isPlain) (h : document path disk = (disk₁, .ok ())) :
    ∃ info root, folderRecordAt disk path = .ok info ∧ disk.Leads path root ∧
      ((draft info (.text path)).pages.map Page.folder).Nodup ∧
      (∀ folder, folder ∈ (draft info (.text path)).pages.map Page.folder ↔
        ∃ place record, Reached info place record ∧ folder = place.foldl Path.join path) ∧
      disk₁.current = disk.current ∧
      (∀ other, (∀ place record, Reached info place record → other ≠ root ++ place ++ [pageName]) →
        disk₁.tree.look other = disk.tree.look other) ∧
      ∀ place record, Reached info place record → ∃ (es : Fields FileTree) (base : String) (names : List String),
        disk.node (place.foldl Path.join path) = .ok (.folder es) ∧
        disk₁.node (Path.join (place.foldl Path.join path) pageName) =
          .ok (.file (Text.Utf8.encode (pageText disk.isFile base (place.foldl Path.join path) es))) ∧
        record.field "_folders" = .ok (.list (names.map .text)) ∧
        (∀ n ∈ names, ∃ inner, Reached info (place ++ [n]) inner) ∧
        (linksOf disk.isFile base (place.foldl Path.join path) es).map (fun l =>
            Path.join (place.foldl Path.join path) (String.ofList l.target)) =
          names.map fun n => Path.join ((place ++ [n]).foldl Path.join path) pageName := by
  obtain ⟨info, root, t, hinfo, hrun⟩ := succeeds_of_document htree h
  have hslashes : 2 ≤ path.toList.count '/' := Nat.le_trans hnames (Path.length_names_le_count habsolute)
  refine ⟨info, root, hinfo, hrun.leads, hrun.nodup_folders htree, fun _ => hrun.mem_folders_iff, by rw [hrun.result],
    ?_, ?_⟩
  · intro other hother
    refine hrun.kept htree fun place hplace => ?_
    obtain ⟨record, hr⟩ := hrun.documented_iff.1 hplace
    exact hother place record hr
  · intro place record hr
    obtain ⟨hplace, u, hu, hrecord⟩ := (reached_iff hrun.record hrun.fault).1 hr
    obtain ⟨es, fields, rfl, rfl, hfields⟩ := folderRecord_ok hrecord
    obtain ⟨hplaceNames, hfolder⟩ := documented_below htree hrun.tree hplace
    have hat : disk.tree.at? (root ++ place) = some (.folder es) := by
      rw [FileTree.at?_append, hrun.tree, Option.bind_some, hu]
    have hwritten := hrun.written htree hplace
    rw [pageAt_self hu path] at hwritten
    refine ⟨es, _, folderNames disk.isFile es, ((hrun.leads.foldl_join hplaceNames hfolder).node).2 hat, hwritten,
      Value.field_record_eq_ok.2 hfields.folders, fun n hn => ?_,
      hrun.map_linksOf htree hslashes (hplain t (hrun.leads.node.2 hrun.tree)) hu _⟩
    obtain ⟨⟨u, hu'⟩, hname⟩ := mem_folderNames.1 hn
    exact hrun.documented_iff.1 (documented_entry hrun.record hplace ((FileTree.at?_concat hu n).trans hu') hname)

namespace Sample

/-- A folder `/r/p` with a folder of its own name in it, one of the name of the folder it is in below that, and a file
that the current folder hides. -/
def nested : Disk :=
  { tree := .folder
      [("notes", .file []),
       ("r", .folder [("p", .folder [("env", .empty), ("notes", .file []), ("p", .folder [("r", .empty)])])])],
    current := [] }

end Sample

theorem sample_document_links :
    Sample.nested.tree.isProper ∧ (document "/r/p" Sample.nested).2 = .ok () ∧
    ∃ info, folderRecordAt Sample.nested "/r/p" = .ok info ∧
      ∀ folder, folder ∈ (draft info (.text "/r/p")).pages.map Page.folder ↔
        ∃ place record, Reached info place record ∧ folder = place.foldl Path.join "/r/p" := by
  have htree : Sample.nested.tree.isProper := by decide +kernel
  have hend : (document "/r/p" Sample.nested).2 = .ok () := by rfl
  have hplain : ∀ t, Sample.nested.node "/r/p" = .ok t → t.isPlain := by
    intro t ht
    cases ht
    decide +kernel
  obtain ⟨info, root, hinfo, -, -, hpages, -⟩ :=
    document_links htree (by decide) (by decide +kernel) hplain (Prod.ext rfl hend)
  exact ⟨htree, hend, info, hinfo, hpages⟩

end Docs

end Docsmith
