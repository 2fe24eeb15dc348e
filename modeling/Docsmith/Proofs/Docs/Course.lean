import Docsmith.Proofs.Docs.Section

/-!
# The course of a run

How far a run comes is decided by the tree alone, and not by where it lies: `course` gives the places of the folders
whose pages are drafted, in order, and the fault that ends the run.  The page at each of them is that of `pageAt`
(`draft_follows`).  The run ends early at a folder named like a field that a page is made from; if it does not, there
is a page for every documented folder (`places_of_course`).
-/

namespace Docsmith.Docs

/-! ### Courses -/

/-- How far a run comes: the places of the folders whose pages are drafted, and the fault that ends the run. -/
structure Course where
  places : List (List String)
  fault? : Option Fault

namespace Course

/-- The courses of the folders in a folder, one after another, up to the first that ends with a fault. -/
def through (inner : Fields Course) : List String → Course
  | [] => ⟨[], none⟩
  | n :: names =>
    let c := (inner.get? n).getD ⟨[], none⟩
    match c.fault? with
    | some fault => ⟨c.places.map (n :: ·), some fault⟩
    | none => ⟨c.places.map (n :: ·) ++ (through inner names).places, (through inner names).fault?⟩

/-- A course that goes on to the folder itself. -/
def finish (c : Course) : Course :=
  match c.fault? with
  | some _ => c
  | none => ⟨c.places ++ [[]], none⟩

variable {inner : Fields Course} {names place : List String}

theorem mem_through (h : place ∈ (through inner names).places) :
    ∃ n ∈ names, ∃ rest ∈ ((inner.get? n).getD ⟨[], none⟩).places, place = n :: rest := by
  induction names with
  | nil => cases h
  | cons n names ih =>
    rw [through] at h
    have hhead : place ∈ ((inner.get? n).getD ⟨[], none⟩).places.map (n :: ·) →
        ∃ m ∈ n :: names, ∃ rest ∈ ((inner.get? m).getD ⟨[], none⟩).places, place = m :: rest := by
      intro hmem
      obtain ⟨rest, hrest, rfl⟩ := List.mem_map.1 hmem
      exact ⟨n, List.mem_cons_self, rest, hrest, rfl⟩
    cases hfault : ((inner.get? n).getD ⟨[], none⟩).fault? with
    | some fault =>
      simp only [hfault] at h
      exact hhead h
    | none =>
      simp only [hfault] at h
      rcases List.mem_append.1 h with h | h
      · exact hhead h
      · obtain ⟨m, hm, hrest⟩ := ih h
        exact ⟨m, List.mem_cons_of_mem _ hm, hrest⟩

/-- A course that goes through all folders ends in none of them. -/
private theorem through_ok (h : (through inner names).fault? = none) :
    (∀ n ∈ names, ((inner.get? n).getD ⟨[], none⟩).fault? = none) ∧
      (through inner names).places = names.flatMap fun n => ((inner.get? n).getD ⟨[], none⟩).places.map (n :: ·) := by
  induction names with
  | nil => exact ⟨fun n hn => (nomatch hn), rfl⟩
  | cons n names ih =>
    rw [through] at h ⊢
    cases hfault : ((inner.get? n).getD ⟨[], none⟩).fault? with
    | some fault => simp [hfault] at h
    | none =>
      simp only [hfault] at h ⊢
      obtain ⟨hnone, hplaces⟩ := ih h
      exact ⟨List.forall_mem_cons.2 ⟨hfault, hnone⟩, by rw [hplaces, List.flatMap_cons]⟩

end Course

mutual

/-- The course of a run over a tree.  An entry named `name` takes the place of the folder's path, and one named like a
list is not found. -/
def course (isHidden : String → Bool) : FileTree → Course
  | .file _ => ⟨[], none⟩
  | .folder es =>
    if "name" ∈ folderNames isHidden es then ⟨[], some (.noAttribute "dict" "replace")⟩
    else (Course.through (courses isHidden es) (folderNames isHidden es)).finish

/-- The courses of the runs over the entries of a folder. -/
def courses (isHidden : String → Bool) : List (String × FileTree) → List (String × Course)
  | [] => []
  | (name, t) :: es =>
    (name, if name ∈ listNames then ⟨[], some .wrongType⟩ else course isHidden t) :: courses isHidden es

end

variable {isHidden : String → Bool} {base path : String} {es : Fields FileTree} {t : FileTree}

theorem get?_courses (name : String) :
    Fields.get? name (courses isHidden es) =
      (es.get? name).map fun t => if name ∈ listNames then ⟨[], some .wrongType⟩ else course isHidden t := by
  induction es with
  | nil => rfl
  | cons e es ih =>
    obtain ⟨k, t⟩ := e
    by_cases hk : k = name
    · subst hk
      simp [courses, Fields.get?]
    · simp [courses, Fields.get?, hk, ih]

/-- A page is drafted only for a folder that is documented. -/
theorem mem_documented_of_course {place : List String} (h : place ∈ (course isHidden t).places) :
    place ∈ documented isHidden t := by
  induction t using FileTree.induction generalizing place with
  | file bytes =>
    rw [course] at h
    cases h
  | folder es ih =>
    rw [course] at h
    split at h
    next => cases h
    next =>
      have hinner : place ∈ (Course.through (courses isHidden es) (folderNames isHidden es)).places →
          place ∈ documented isHidden (.folder es) := by
        intro hmem
        obtain ⟨n, hn, rest, hrest, rfl⟩ := Course.mem_through hmem
        obtain ⟨⟨t, ht⟩, hfolder⟩ := mem_folderNames.1 hn
        rw [get?_courses, ht, Option.map_some, Option.getD_some] at hrest
        split at hrest
        next => cases hrest
        next => exact mem_documented.2 (.inr ⟨n, t, rest, ht, hfolder, ih n t ht hrest, rfl⟩)
      rw [Course.finish] at h
      split at h
      next => exact hinner h
      next =>
        rcases List.mem_append.1 h with h | h
        · exact hinner h
        · exact mem_documented.2 (.inl (List.mem_singleton.1 h))

/-- What a run without a fault says of a folder: no folder in it is named like a field that a page is made from, and
the runs over all folders in it are without a fault. -/
theorem course_folder_ok (h : (course isHidden (.folder es)).fault? = none) :
    "name" ∉ folderNames isHidden es ∧
      (∀ n ∈ folderNames isHidden es, n ∉ listNames ∧ ∀ t, es.get? n = some t → (course isHidden t).fault? = none) ∧
      (course isHidden (.folder es)).places =
        (folderNames isHidden es).flatMap (fun n =>
          ((es.get? n).elim [] fun t => (course isHidden t).places).map (n :: ·)) ++ [[]] := by
  rw [course] at h ⊢
  split at h
  next => cases h
  next hname =>
    rw [if_neg hname, Course.finish]
    cases hfault : (Course.through (courses isHidden es) (folderNames isHidden es)).fault? with
    | some fault =>
      rw [Course.finish] at h
      simp [hfault] at h
    | none =>
      obtain ⟨hnone, hplaces⟩ := Course.through_ok hfault
      have hinner : ∀ n ∈ folderNames isHidden es, n ∉ listNames ∧
          ∀ t, es.get? n = some t → (course isHidden t).fault? = none := by
        intro n hn
        obtain ⟨⟨t, ht⟩, -⟩ := mem_folderNames.1 hn
        have hn' := hnone n hn
        rw [get?_courses, ht, Option.map_some, Option.getD_some] at hn'
        split at hn'
        next => cases hn'
        next hlist =>
          refine ⟨hlist, fun t' ht' => ?_⟩
          cases ht.symm.trans ht'
          exact hn'
      refine ⟨hname, hinner, ?_⟩
      simp only [hplaces]
      rw [List.flatMap_def, List.flatMap_def]
      refine congrArg (fun l : List (List (List String)) => l.flatten ++ [[]]) (List.map_congr_left fun n hn => ?_)
      obtain ⟨⟨t, ht⟩, -⟩ := mem_folderNames.1 hn
      rw [get?_courses, ht, Option.map_some, Option.getD_some, if_neg (hinner n hn).1]
      rfl

/-- A run without a fault drafts a page for every documented folder. -/
theorem places_of_course (h : (course isHidden t).fault? = none) :
    (course isHidden t).places = documented isHidden t := by
  induction t using FileTree.induction with
  | file bytes => rw [course, documented]
  | folder es ih =>
    obtain ⟨-, hinner, hplaces⟩ := course_folder_ok h
    rw [hplaces, documented, List.flatMap_def, List.flatMap_def]
    refine congrArg (fun l : List (List (List String)) => l.flatten ++ [[]]) (List.map_congr_left fun n hn => ?_)
    obtain ⟨⟨t, ht⟩, -⟩ := mem_folderNames.1 hn
    rw [get?_documentedIn, ht, Option.map_some, Option.getD_some, ← ih n t ht ((hinner n hn).2 t ht)]
    rfl

/-! ### Pages -/

/-- The page of the folder at a place, in a run over the tree at a path. -/
def pageAt (isHidden : String → Bool) : String → String → FileTree → List String → Page
  | base, path, t, [] => ⟨path, pageText isHidden base path t.entries⟩
  | _, path, t, n :: place => pageAt isHidden path (Path.join path n) ((t.child? n).getD .empty) place

theorem folder_pageAt (isHidden : String → Bool) (base path : String) (t : FileTree) (place : List String) :
    (pageAt isHidden base path t place).folder = place.foldl Path.join path := by
  induction place generalizing base path t with
  | nil => rfl
  | cons n place ih => exact ih path (Path.join path n) _

/-- The page of a folder takes the path of the folder that it is in away from names; that of the documented folder
takes its own. -/
theorem pageAt_self {u : FileTree} {place : List String} (h : t.at? place = some u) (path : String) :
    pageAt isHidden path path t place =
      ⟨place.foldl Path.join path,
        pageText isHidden (place.dropLast.foldl Path.join path) (place.foldl Path.join path) u.entries⟩ := by
  have hany : ∀ base, pageAt isHidden base path t place =
      ⟨place.foldl Path.join path,
        pageText isHidden (if place = [] then base else place.dropLast.foldl Path.join path)
          (place.foldl Path.join path) u.entries⟩ := by
    induction place generalizing path t with
    | nil =>
      intro base
      cases h
      rfl
    | cons n place ih =>
      intro base
      rw [FileTree.at?] at h
      obtain ⟨sub, hsub, hat⟩ := Option.bind_eq_some_iff.1 h
      rw [pageAt, hsub, Option.getD_some, ih hat]
      cases place <;> rfl
  rw [hany path]
  cases place <;> rfl

/-- The pages of a draft are those of a course; without a fault it gives back a record with the path of the folder. -/
structure Draft.Follows (d : Draft) (c : Course) (page : List String → Page) (path : String) : Prop where
  pages : d.pages = c.places.map page
  fault : d.fault? = c.fault?
  name : c.fault? = none → d.record.field "name" = .ok (.text path)

section

variable {inner : Fields (Value → Draft)} {courses : Fields Course} {names : List String} {page : List String → Page}

/-- If the draft of each folder follows its course, the drafts of all of them follow the courses one after another. -/
private theorem draftFolders_follows
    (hinner : ∀ n ∈ names, ∃ draftFolder, inner.get? n = some draftFolder ∧
      (draftFolder (.text path)).Follows ((courses.get? n).getD ⟨[], none⟩) (fun place => page (n :: place))
        (Path.join path n))
    (base : String) (fields : Fields Value) :
    (draftFolders inner (.text base) (.text path) (names.map .text) (.record fields)).1.pages =
        (Course.through courses names).places.map page ∧
      (draftFolders inner (.text base) (.text path) (names.map .text) (.record fields)).1.fault? =
        (Course.through courses names).fault? ∧
      (∃ fields', (draftFolders inner (.text base) (.text path) (names.map .text) (.record fields)).1.record =
        .record fields' ∧ ∀ key, key ∉ names → Fields.get? key fields' = fields.get? key) ∧
      ((Course.through courses names).fault? = none →
        (draftFolders inner (.text base) (.text path) (names.map .text) (.record fields)).2 =
          names.flatMap fun n => (linkTo base path (Path.join path n)).render) := by
  induction names generalizing fields with
  | nil => exact ⟨rfl, rfl, ⟨fields, rfl, fun _ _ => rfl⟩, fun _ => rfl⟩
  | cons n names ih =>
    obtain ⟨⟨draftFolder, hget, hfollows⟩, hinner⟩ := List.forall_mem_cons.1 hinner
    have hlookup : Value.lookup inner (.text n) = .ok draftFolder := by simp [Value.lookup, hget]
    have hkept : ∀ part key, key ∉ n :: names → Fields.get? key (fields.put n part) = fields.get? key := by
      intro part key hkey
      have hne : key ≠ n := fun h => hkey (h ▸ List.mem_cons_self)
      exact Fields.get?_put_of_ne hne part fields
    rw [List.map_cons, draftFolders, Course.through, hlookup]
    simp only [setPart, hfollows.fault]
    cases hfault : ((courses.get? n).getD ⟨[], none⟩).fault? with
    | some fault =>
      refine ⟨?_, rfl, ⟨_, rfl, hkept _⟩, fun h => by cases h⟩
      rw [hfollows.pages, List.map_map]
      rfl
    | none =>
      simp only [hfollows.name hfault, bind, Except.bind, renderLink_text]
      obtain ⟨hpages, hrest, ⟨fields', hrecord, hfields'⟩, hlinks⟩ :=
        ih hinner (fields.put n (draftFolder (.text path)).record)
      refine ⟨?_, hrest, ⟨fields', hrecord, fun key hkey => ?_⟩, fun h => ?_⟩
      · rw [hpages, hfollows.pages, List.map_append, List.map_map]
        rfl
      · rw [hfields' key fun h => hkey (List.mem_cons_of_mem _ h), hkept _ key hkey]
      · rw [hlinks h, List.flatMap_cons]

/-- The page of a folder comes after those of the folders in it, with the links to them at its end. -/
theorem draftPage_text {record : Value} (hfolders : record.field "_folders" = .ok (.list (names.map .text)))
    (inner : Fields (Value → Draft)) (base : Value) (path : String) (top : List Char) :
    ((draftFolders inner base (.text path) (names.map .text) record).1.fault? ≠ none →
      draftPage inner base (.text path) top record =
        (draftFolders inner base (.text path) (names.map .text) record).1) ∧
    ((draftFolders inner base (.text path) (names.map .text) record).1.fault? = none →
      draftPage inner base (.text path) top record =
        { (draftFolders inner base (.text path) (names.map .text) record).1 with
          pages := (draftFolders inner base (.text path) (names.map .text) record).1.pages ++
            [⟨path, top ++ if names.isEmpty then [] else "## Subdirectory Links:\n".toList ++
              (draftFolders inner base (.text path) (names.map .text) record).2⟩] }) := by
  unfold draftPage
  rw [hfolders]
  cases names with
  | nil =>
    refine ⟨fun h => absurd rfl h, fun _ => ?_⟩
    simp only [bind, Except.bind, Value.truthy, List.map_nil, List.isEmpty_nil, Bool.not_true, draftFolders,
      Bool.false_eq_true, if_false, if_true, List.append_nil, List.nil_append]
  | cons n names =>
    simp only [bind, Except.bind, Value.truthy, List.map_cons, List.isEmpty_cons, Bool.not_false, if_true,
      Value.elements, Except.map, Bool.false_eq_true, if_false]
    cases (draftFolders inner base (.text path) (.text n :: names.map .text) record).1.fault? with
    | some fault => exact ⟨fun _ => rfl, fun h => by cases h⟩
    | none => exact ⟨fun h => absurd rfl h, fun _ => by simp only [List.append_assoc]⟩

end

/-- Where a folder `name` has taken the place of the path, the draft fails before the first page. -/
theorem draftStart_error {fields : Fields Value} (hfields : FolderFields isHidden path es fields)
    (hname : "name" ∈ folderNames isHidden es) (base : Value) :
    draftStart fields base = .error (.noAttribute "dict" "replace") := by
  obtain ⟨t, v, -, hv, hget⟩ := hfields.folder "name" hname
  obtain ⟨_, inner, -, rfl, -⟩ := folderRecord_ok hv
  rw [draftStart, Value.field_record_eq_ok.2 (hget (by decide))]
  rfl

theorem draftStart_ok {fields : Fields Value} (hfields : FolderFields isHidden path es fields)
    (hname : "name" ∉ folderNames isHidden es) (base : String) :
    draftStart fields (.text base) =
      .ok (.text path, headingText base path, .list ((orderedSources es).map .text)) := by
  rw [draftStart, Value.field_record_eq_ok.2 (hfields.name hname), Value.field_record_eq_ok.2 hfields.files]
  refine Outcome.bind_eq_ok.2 ⟨_, rfl, Outcome.bind_eq_ok.2 ⟨_, renderHeading_text base path, ?_⟩⟩
  exact Outcome.bind_eq_ok.2 ⟨_, rfl, Outcome.bind_eq_ok.2 ⟨_, orderSources_texts es, rfl⟩⟩

theorem isEmpty_linksOf (isHidden : String → Bool) (base path : String) (es : Fields FileTree) :
    (linksOf isHidden base path es).isEmpty = (folderNames isHidden es).isEmpty := by
  rw [linksOf, List.isEmpty_map]

/-- The draft of a folder's record has the pages of the folder's course and ends as that does. -/
theorem draft_follows {v : Value} (h : folderRecord isHidden path t = .ok v) (base : String) :
    (draft v (.text base)).Follows (course isHidden t) (pageAt isHidden base path t) path := by
  induction t using FileTree.induction generalizing base path v with
  | file bytes =>
    rw [folderRecord] at h
    cases h
  | folder es ih =>
    obtain ⟨_, fields, hes, rfl, hfields⟩ := folderRecord_ok h
    cases hes
    rw [draft_record, course]
    by_cases hname : "name" ∈ folderNames isHidden es
    · rw [draftStart_error hfields hname, if_pos hname]
      exact ⟨rfl, rfl, fun h => by cases h⟩
    · rw [draftStart_ok hfields hname, if_neg hname]
      simp only [renderSources_folder h]
      have hlist : (Value.record
          (Fields.put "_files" (.list ((orderedSources es).map .text)) fields)).field "_folders" =
          .ok (.list ((folderNames isHidden es).map .text)) :=
        Value.field_record_eq_ok.2 (by rw [Fields.get?_put_of_ne (by decide), hfields.folders])
      have hinner : ∀ n ∈ folderNames isHidden es, ∃ draftFolder, Fields.get? n (drafts fields) = some draftFolder ∧
          (draftFolder (.text path)).Follows ((Fields.get? n (courses isHidden es)).getD ⟨[], none⟩)
            (fun place => pageAt isHidden base path (.folder es) (n :: place)) (Path.join path n) := by
        intro n hn
        obtain ⟨t, v, ht, hv, hkept⟩ := hfields.folder n hn
        rw [get?_drafts, get?_courses, ht, Option.map_some, Option.getD_some]
        by_cases hmem : n ∈ listNames
        · -- a list stands in the place of the record
          rw [if_pos hmem]
          rcases mem_listNames.1 hmem with rfl | rfl
          · rw [hfields.folders]
            exact ⟨_, rfl, ⟨by simp [draft], by simp [draft], fun h => by cases h⟩⟩
          · rw [hfields.files]
            exact ⟨_, rfl, ⟨by simp [draft], by simp [draft], fun h => by cases h⟩⟩
        · rw [if_neg hmem, hkept hmem]
          refine ⟨_, rfl, ?_⟩
          have hpage : (fun place => pageAt isHidden base path (.folder es) (n :: place)) =
              pageAt isHidden path (Path.join path n) t := by
            funext place
            rw [pageAt, FileTree.child?, FileTree.entries, ht, Option.getD_some]
          rw [hpage]
          exact ih n t ht hv path
      obtain ⟨hpages, hfault, ⟨fields', hrecord, hkept⟩, hlinks⟩ :=
        draftFolders_follows hinner base (Fields.put "_files" (.list ((orderedSources es).map .text)) fields)
      obtain ⟨hstopped, hdone⟩ := draftPage_text hlist (drafts fields) (.text base) path
        (headingText base path ++ sourcesText es)
      rw [Course.finish]
      cases hend : (Course.through (courses isHidden es) (folderNames isHidden es)).fault? with
      | some fault =>
        rw [hstopped (by rw [hfault, hend]; exact Option.some_ne_none _)]
        exact ⟨hpages, hfault, fun h => by cases hend.symm.trans h⟩
      | none =>
        rw [hdone (hfault.trans hend)]
        refine ⟨?_, hfault.trans hend, fun _ => ?_⟩
        · rw [hpages, hlinks hend, List.map_append]
          refine congrArg (_ ++ ·) (congrArg (fun text => [(⟨path, text⟩ : Page)]) ?_)
          rw [pageText, renderLinks, isEmpty_linksOf, linksOf, List.flatMap_map]
          rfl
        · rw [hrecord, Value.field_record_eq_ok, hkept _ hname, Fields.get?_put_of_ne (by decide), hfields.name hname]

end Docsmith.Docs
