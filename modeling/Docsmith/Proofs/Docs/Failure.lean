import Docsmith.Proofs.Docs.Links
import Docsmith.Proofs.Docs.Visit

/-!
# Runs that fail

A record is documented on a disk that may have changed since it was made: folders may be gone, and a folder may stand
where a page belongs.  However the run ends, each page is written after those of all folders in its folder, and when it
fails neither the folder at which it fails nor any around it has its page written (`visit_orderly`).  So all that has
changed on the disk are complete pages of folders from which the run has returned (`failed_run_leaves_complete_pages`).
-/

namespace Docsmith.Docs

/-- The names of the folders in the folder that is reached at a place of a record. -/
def FoldersAt (v : Value) (place names : List String) : Prop :=
  ∃ fields, Reached v place (.record fields) ∧ Fields.get? "_folders" fields = some (.list (names.map .text))

private theorem FoldersAt.inner {fields : Fields Value} {v : Value} {place names all : List String} {n : String}
    (hfolders : fields.get? "_folders" = some (.list (all.map .text))) (hn : n ∈ all) (hv : fields.get? n = some v)
    (h : FoldersAt v place names) : FoldersAt (.record fields) (n :: place) names := by
  obtain ⟨inner, hreached, hnames⟩ := h
  exact ⟨inner, .inner hfolders hn hv hreached, hnames⟩

/-! ### Places and what comes before them -/

/-- Every place in a list has a property with respect to the places before it. -/
def EachAfter {α : Type} (P : List α → α → Prop) (xs : List α) : Prop :=
  ∀ before x after, xs = before ++ x :: after → P before x

namespace EachAfter

variable {α β : Type} {P Q : List α → α → Prop} {xs ys : List α}

private theorem nil : EachAfter P [] := by
  intro before x after h
  simp at h

private theorem imp (h : EachAfter P xs) (himp : ∀ before x, P before x → Q before x) : EachAfter Q xs :=
  fun before x after hxs => himp before x (h before x after hxs)

private theorem append (hxs : EachAfter P xs) (hys : EachAfter (fun before x => P (xs ++ before) x) ys) :
    EachAfter P (xs ++ ys) := by
  intro before x after h
  rcases List.append_eq_append_iff.1 h with ⟨more, rfl, hys'⟩ | ⟨more, hxs', hmore⟩
  · exact hys more x after hys'
  · cases more with
    | nil =>
      rw [List.append_nil] at hxs'
      subst hxs'
      simpa using hys [] x after hmore.symm
    | cons y more =>
      obtain ⟨rfl, -⟩ := List.cons.inj hmore
      exact hxs before x more hxs'

private theorem concat {x : α} (hxs : EachAfter P xs) (hx : P xs x) : EachAfter P (xs ++ [x]) := by
  refine hxs.append fun before y after h => ?_
  obtain ⟨rfl, rfl, -⟩ : before = [] ∧ x = y ∧ after = [] := by
    cases before with
    | nil => simpa using h
    | cons z before => simp at h
  rwa [List.append_nil]

private theorem map {f : α → β} {P : List β → β → Prop} (h : EachAfter (fun before x => P (before.map f) (f x)) xs) :
    EachAfter P (xs.map f) := by
  intro before y after hxs
  obtain ⟨before', rest, rfl, rfl, hrest⟩ := List.map_eq_append_iff.1 hxs
  obtain ⟨x, after', rfl, rfl, rfl⟩ := List.map_eq_cons_iff.1 hrest
  exact h before' x after' rfl

end EachAfter

/-! ### Visits -/

/-- What holds of a visit to the folder of a record, however it ends: `page` gives the pages of its folders. -/
structure Visit.Orderly (r : Visit) (disk : Disk) (v : Value) (page : List String → Page) (path : String) (c : Course) :
    Prop where
  written : publish (r.returned.map page) disk = (r.disk, .ok ())
  start : r.returned <+: c.places
  order : EachAfter (fun before place => ∃ names, FoldersAt v place names ∧ ∀ n ∈ names, place ++ [n] ∈ before)
    r.returned
  complete : r.failure? = none →
    c.fault? = none ∧ r.returned = c.places ∧ [] ∈ r.returned ∧ r.record.field "name" = .ok (.text path)
  failed : ∀ place fault, r.failure? = some (place, fault) → ∀ q, q <+: place → q ∉ r.returned

/-- The same of visits to the folders in a folder, one after another. -/
structure Visit.OrderlyIn (r : Visit) (links : List Char) (disk : Disk) (fields : Fields Value)
    (page : List String → Page) (names : List String) (courses : Fields Course) (link : String → List Char) : Prop where
  written : publish (r.returned.map page) disk = (r.disk, .ok ())
  start : r.returned <+: (Course.through courses names).places
  order : EachAfter (fun before place => ∃ n ∈ names, ∃ rest, place = n :: rest ∧ ∃ v, fields.get? n = some v ∧
    ∃ inner, FoldersAt v rest inner ∧ ∀ m ∈ inner, place ++ [m] ∈ before) r.returned
  complete : r.failure? = none →
    (Course.through courses names).fault? = none ∧ r.returned = (Course.through courses names).places ∧
      (∀ n ∈ names, [n] ∈ r.returned) ∧ links = names.flatMap link
  failed : ∀ place fault, r.failure? = some (place, fault) →
    (∃ n ∈ names, ∃ rest, place = n :: rest) ∧ ∀ q, q <+: place → q ∉ r.returned

variable {isHidden : String → Bool} {path : String} {fields : Fields Value} {names : List String}
  {page : List String → Page} {courses : Fields Course} {inner : Fields (Value → Disk → Visit)}

private theorem Course.through_singleton (courses : Fields Course) (n : String) :
    (Course.through courses [n]).places = ((courses.get? n).getD ⟨[], none⟩).places.map (n :: ·) ∧
      (Course.through courses [n]).fault? = ((courses.get? n).getD ⟨[], none⟩).fault? := by
  rw [Course.through]
  cases hfault : ((courses.get? n).getD ⟨[], none⟩).fault? with
  | some fault => exact ⟨rfl, rfl⟩
  | none => exact ⟨List.append_nil _, rfl⟩

private theorem Course.through_cons_of_ok {n : String} (h : (Course.through courses [n]).fault? = none)
    (names : List String) :
    Course.through courses (n :: names) =
      ⟨(Course.through courses [n]).places ++ (Course.through courses names).places,
        (Course.through courses names).fault?⟩ := by
  obtain ⟨hplaces, hfault⟩ := Course.through_singleton courses n
  rw [hplaces, Course.through, ← hfault, h]

private theorem Course.through_prefix (n : String) (names : List String) :
    (Course.through courses [n]).places <+: (Course.through courses (n :: names)).places := by
  cases h : (Course.through courses [n]).fault? with
  | none =>
    rw [Course.through_cons_of_ok h names]
    exact List.prefix_append _ _
  | some fault =>
    obtain ⟨hplaces, hfault⟩ := Course.through_singleton courses n
    have hall : Course.through courses (n :: names) = ⟨(Course.through courses [n]).places, some fault⟩ := by
      rw [hplaces, Course.through, ← hfault, h]
    exact ⟨[], by rw [hall, List.append_nil]⟩

private theorem Course.finish_prefix (c : Course) : c.places <+: c.finish.places := by
  unfold Course.finish
  split
  · exact List.prefix_refl _
  · exact List.prefix_append _ _

/-- A visit to one folder, seen from the folder that it is in. -/
private theorem Visit.Orderly.inside {r : Visit} {disk : Disk} {v : Value} {n : String}
    (h : r.Orderly disk v (fun place => page (n :: place)) (Path.join path n) ((courses.get? n).getD ⟨[], none⟩))
    (hv : fields.get? n = some v) (link : String → List Char) :
    (r.inside (.text n)).OrderlyIn (link n) disk fields page [n] courses link := by
  have hreturned : (r.inside (.text n)).returned = r.returned.map (n :: ·) := rfl
  obtain ⟨hplaces, hfault⟩ := Course.through_singleton courses n
  refine ⟨?_, ?_, ?_, ?_, ?_⟩
  · rw [hreturned, List.map_map]
    exact h.written
  · rw [hreturned, hplaces]
    exact h.start.map _
  · refine EachAfter.map (h.order.imp ?_)
    rintro before place ⟨inner, hfolders, hbefore⟩
    exact ⟨n, List.mem_singleton.2 rfl, place, rfl, v, hv, inner, hfolders,
      fun m hm => List.mem_map_of_mem (f := (n :: ·)) (hbefore m hm)⟩
  · intro hok
    obtain ⟨hnone, hall, hnil, -⟩ := h.complete (Visit.inside_failure_none.1 hok)
    refine ⟨hfault.trans hnone, by rw [hreturned, hplaces, hall], fun m hm => ?_, by simp⟩
    rw [List.mem_singleton.1 hm]
    exact List.mem_map_of_mem (f := (n :: ·)) hnil
  · intro place fault hfailure
    obtain ⟨⟨place', fault'⟩, hfailure', heq⟩ := Option.map_eq_some_iff.1 hfailure
    obtain ⟨rfl, rfl⟩ := Prod.mk.inj heq
    refine ⟨⟨n, List.mem_singleton.2 rfl, place', rfl⟩, fun q hq hmem => ?_⟩
    obtain ⟨q', hq', rfl⟩ := List.mem_map.1 hmem
    exact h.failed place' fault' hfailure' q' ((List.prefix_cons_inj n).1 hq) hq'

section

variable {r : Visit} {disk : Disk} {links : List Char} {link : String → List Char}

private theorem Visit.OrderlyIn.mem (h : r.OrderlyIn links disk fields page names courses link) {place : List String}
    (hplace : place ∈ r.returned) : ∃ n ∈ names, ∃ rest, place = n :: rest := by
  obtain ⟨n, hn, rest, -, heq⟩ := Course.mem_through (h.start.subset hplace)
  exact ⟨n, hn, rest, heq⟩

/-- If the visit to a folder fails, those after it are not made. -/
private theorem Visit.OrderlyIn.stop {n : String} (h : r.OrderlyIn links disk fields page [n] courses link)
    (hfailed : r.failure? ≠ none) (record : Value) (names : List String) (links' : List Char) :
    Visit.OrderlyIn { r with record := record } links' disk fields page (n :: names) courses link := by
  have hsub : ∀ m ∈ [n], m ∈ n :: names := by
    intro m hm
    rw [List.mem_singleton.1 hm]
    exact List.mem_cons_self
  refine ⟨h.written, h.start.trans (Course.through_prefix n names), h.order.imp ?_, fun hok => absurd hok hfailed, ?_⟩
  · rintro before place ⟨m, hm, hrest⟩
    exact ⟨m, hsub m hm, hrest⟩
  · intro place fault hfailure
    obtain ⟨⟨m, hm, hrest⟩, hnot⟩ := h.failed place fault hfailure
    exact ⟨⟨m, hsub m hm, hrest⟩, hnot⟩

/-- If the visit to a folder returns, those after it are made on the disk that it leaves. -/
private theorem Visit.OrderlyIn.cons {rest : Visit} {n : String} {links' : List Char}
    (h : r.OrderlyIn links disk fields page [n] courses link) (hok : r.failure? = none)
    (hrest : rest.OrderlyIn links' r.disk fields page names courses link) (hn : n ∉ names) :
    Visit.OrderlyIn { rest with returned := r.returned ++ rest.returned } (links ++ links') disk fields page
      (n :: names) courses link := by
  obtain ⟨hnone, hplaces, hfirst, hlink⟩ := h.complete hok
  have hthrough := Course.through_cons_of_ok hnone names
  refine ⟨?_, ?_, ?_, ?_, ?_⟩
  · rw [List.map_append, publish_append, h.written]
    exact hrest.written
  · rw [hthrough, hplaces]
    exact (List.prefix_append_right_inj _).2 hrest.start
  · refine EachAfter.append (h.order.imp ?_) (hrest.order.imp ?_)
    · rintro before place ⟨m, hm, hinner⟩
      exact ⟨m, List.mem_singleton.1 hm ▸ List.mem_cons_self, hinner⟩
    · rintro before place ⟨m, hm, inner, hplace, v, hv, names', hfolders, hbefore⟩
      exact ⟨m, List.mem_cons_of_mem _ hm, inner, hplace, v, hv, names', hfolders,
        fun k hk => List.mem_append_right _ (hbefore k hk)⟩
  · intro hdone
    obtain ⟨hnone', hplaces', hothers, hlinks⟩ := hrest.complete hdone
    rw [hthrough]
    refine ⟨hnone', by rw [hplaces, hplaces'], List.forall_mem_cons.2 ⟨?_, ?_⟩, ?_⟩
    · exact List.mem_append_left _ (hfirst n (List.mem_singleton.2 rfl))
    · exact fun m hm => List.mem_append_right _ (hothers m hm)
    · rw [hlink, hlinks, List.flatMap_cons, List.flatMap_cons, List.flatMap_nil, List.append_nil]
  · intro place fault hfailure
    obtain ⟨⟨m, hm, rest', rfl⟩, hnot⟩ := hrest.failed place fault hfailure
    refine ⟨⟨m, List.mem_cons_of_mem _ hm, rest', rfl⟩, fun q hq hmem => ?_⟩
    rcases List.mem_append.1 hmem with hmem | hmem
    · -- the run fails in another folder than the first
      obtain ⟨k, hk, q', rfl⟩ := h.mem hmem
      obtain ⟨rfl, -⟩ := List.cons_prefix_cons.1 hq
      exact hn (List.mem_singleton.1 hk ▸ hm)
    · exact hnot q hq hmem

end

private theorem visitFolders_orderly (hnodup : names.Nodup)
    (hinner : ∀ n ∈ names, ∃ visitFolder v, inner.get? n = some visitFolder ∧ fields.get? n = some v ∧
      ∀ disk, (visitFolder (.text path) disk).Orderly disk v (fun place => page (n :: place)) (Path.join path n)
        ((courses.get? n).getD ⟨[], none⟩))
    (base : String) (record : Fields Value) (disk : Disk) :
    (visitFolders inner (.text base) (.text path) (names.map .text) (.record record) disk).1.OrderlyIn
        (visitFolders inner (.text base) (.text path) (names.map .text) (.record record) disk).2 disk fields page names
        courses (fun n => (linkTo base path (Path.join path n)).render) ∧
      ∃ record', (visitFolders inner (.text base) (.text path) (names.map .text) (.record record) disk).1.record =
        .record record' ∧ ∀ key, key ∉ names → Fields.get? key record' = record.get? key := by
  induction names generalizing record disk with
  | nil =>
    refine ⟨⟨rfl, List.prefix_refl _, EachAfter.nil, ?_, ?_⟩, record, rfl, fun _ _ => rfl⟩
    · intro _
      exact ⟨rfl, rfl, fun n hn => (by cases hn), rfl⟩
    · intro place fault h
      cases h
  | cons n names ih =>
    obtain ⟨hn, hnodup⟩ := List.nodup_cons.1 hnodup
    obtain ⟨⟨visitFolder, v, hget, hv, horderly⟩, hinner⟩ := List.forall_mem_cons.1 hinner
    have hlookup : Value.lookup inner (.text n) = .ok visitFolder := by simp [Value.lookup, hget]
    have hkept : ∀ part key, key ∉ n :: names → Fields.get? key (record.put n part) = record.get? key := by
      intro part key hkey
      have hne : key ≠ n := fun h => hkey (h ▸ List.mem_cons_self)
      exact Fields.get?_put_of_ne hne part record
    rw [List.map_cons, visitFolders, hlookup]
    have h := horderly disk
    simp only [Visit.inside_record, Visit.inside_disk, setPart]
    generalize visitFolder (.text path) disk = r at h ⊢
    have hinside := h.inside hv fun n => (linkTo base path (Path.join path n)).render
    cases hfailure : r.failure? with
    | some failure =>
      have hfailed : (r.inside (.text n)).failure? ≠ none := by simp [Visit.inside_failure_none, hfailure]
      have hstop := hinside.stop hfailed (.record (record.put n r.record)) names []
      obtain ⟨failure', hfailure'⟩ := Option.ne_none_iff_exists'.1 hfailed
      rw [hfailure'] at hstop ⊢
      exact ⟨hstop, record.put n r.record, rfl, hkept r.record⟩
    | none =>
      have hok : (r.inside (.text n)).failure? = none := Visit.inside_failure_none.2 hfailure
      rw [hok, (h.complete hfailure).2.2.2]
      simp only [bind, Except.bind, renderLink_text]
      obtain ⟨hrest, record', hrecord', hkept'⟩ := ih hnodup hinner (record.put n r.record) r.disk
      refine ⟨hinside.cons hok hrest hn, record', hrecord', fun key hkey => ?_⟩
      rw [hkept' key fun hmem => hkey (List.mem_cons_of_mem _ hmem), hkept r.record key hkey]

/-- The page of a folder is written when the visits to the folders in it have returned, with the links to them at its
end. -/
private theorem visitPage_text {record : Value} (hfolders : record.field "_folders" = .ok (.list (names.map .text)))
    (inner : Fields (Value → Disk → Visit)) (base : Value) (path : String) (top : List Char) (disk : Disk) :
    ((visitFolders inner base (.text path) (names.map .text) record disk).1.failure? ≠ none →
      visitPage inner base (.text path) top record disk =
        (visitFolders inner base (.text path) (names.map .text) record disk).1) ∧
    ((visitFolders inner base (.text path) (names.map .text) record disk).1.failure? = none →
      visitPage inner base (.text path) top record disk =
        (visitFolders inner base (.text path) (names.map .text) record disk).1.writePage path
          (top ++ if names.isEmpty then [] else "## Subdirectory Links:\n".toList ++
            (visitFolders inner base (.text path) (names.map .text) record disk).2)) := by
  unfold visitPage
  rw [hfolders]
  cases names with
  | nil =>
    refine ⟨fun h => absurd rfl h, fun _ => ?_⟩
    simp only [bind, Except.bind, Value.truthy, List.map_nil, List.isEmpty_nil, Bool.not_true, visitFolders,
      Bool.false_eq_true, if_false, if_true, List.append_nil]
  | cons n names =>
    simp only [bind, Except.bind, Value.truthy, List.map_cons, List.isEmpty_cons, Bool.not_false, if_true,
      Value.elements, Except.map, Bool.false_eq_true, if_false]
    cases (visitFolders inner base (.text path) (.text n :: names.map .text) record disk).1.failure? with
    | some failure => exact ⟨fun _ => rfl, fun h => by cases h⟩
    | none => exact ⟨fun h => absurd rfl h, fun _ => by simp only [List.append_assoc]⟩

section

variable {r : Visit} {links : List Char} {disk : Disk} {link : String → List Char}
  (h : r.OrderlyIn links disk fields page names courses link)
  (hfolders : fields.get? "_folders" = some (.list (names.map .text)))

include h hfolders

private theorem Visit.OrderlyIn.order_record :
    EachAfter (fun before place => ∃ inner, FoldersAt (.record fields) place inner ∧ ∀ n ∈ inner, place ++ [n] ∈ before)
      r.returned := by
  refine h.order.imp ?_
  rintro before _ ⟨n, hn, rest, rfl, v, hv, inner, hinner, hbefore⟩
  exact ⟨inner, hinner.inner hfolders hn hv, hbefore⟩

private theorem Visit.OrderlyIn.orderly_of_failed (hfailed : r.failure? ≠ none) (path : String) :
    r.Orderly disk (.record fields) page path (Course.through courses names).finish where
  written := h.written
  start := h.start.trans (Course.finish_prefix _)
  order := h.order_record hfolders
  complete hok := absurd hok hfailed
  failed place fault hfailure := (h.failed place fault hfailure).2

/-- A visit to a folder from the folders in which the run has returned: it ends with the page of the folder. -/
private theorem Visit.OrderlyIn.orderly_writePage (hok : r.failure? = none)
    (hname : r.record.field "name" = .ok (.text path)) {text : List Char} (hpage : page [] = ⟨path, text⟩) :
    (r.writePage path text).Orderly disk (.record fields) page path (Course.through courses names).finish := by
  obtain ⟨hnone, hplaces, hfirst, -⟩ := h.complete hok
  have hfinish : (Course.through courses names).finish = ⟨r.returned ++ [[]], none⟩ := by
    rw [Course.finish, hnone, hplaces]
  rw [hfinish]
  unfold Visit.writePage
  cases hwrite : r.disk.write path pageName (Text.Utf8.encode text) with
  | error fault =>
    refine ⟨h.written, List.prefix_append _ _, h.order_record hfolders, fun hdone => (by cases hdone), ?_⟩
    intro place fault' hfailure q hq hmem
    cases hfailure
    rw [List.prefix_nil.1 hq] at hmem
    obtain ⟨n, -, rest, heq⟩ := h.mem hmem
    cases heq
  | ok disk' =>
    refine ⟨?_, List.prefix_refl _, (h.order_record hfolders).concat ⟨names, ⟨fields, .here _, hfolders⟩, hfirst⟩,
      fun _ => ⟨rfl, rfl, by simp, hname⟩, ?_⟩
    · rw [List.map_append, publish_append, h.written]
      simp only [List.map_cons, List.map_nil, hpage, publish, hwrite]
    · intro place fault hfailure
      cases hok.symm.trans hfailure

end

private theorem orderly_of_nothing (record v : Value) (disk : Disk) (fault : Fault) (page : List String → Page)
    (path : String) (c : Course) : Visit.Orderly ⟨record, disk, [], some ([], fault)⟩ disk v page path c where
  written := rfl
  start := List.nil_prefix
  order := EachAfter.nil
  complete hok := by cases hok
  failed place fault' hfailure q hq hmem := by cases hmem

/-- A list that stands in the place of a record ends the visit before anything is written. -/
private theorem visit_list_orderly (items : List Value) (base : Value) (disk : Disk) (v : Value)
    (page : List String → Page) (path : String) (c : Course) :
    (visit (.list items) base disk).Orderly disk v page path c := by
  rw [visit]
  · exact orderly_of_nothing _ v disk _ page path c
  · simp

/-- The visits to the folders in a folder are orderly if those to proper records are. -/
private theorem visits_orderly {es : Fields FileTree} (hfields : FolderFields isHidden path es fields) (base : String)
    (ih : ∀ n t, es.get? n = some t → ∀ v, folderRecord isHidden (Path.join path n) t = .ok v → ∀ disk,
      (visit v (.text path) disk).Orderly disk v (pageAt isHidden path (Path.join path n) t) (Path.join path n)
        (course isHidden t)) :
    ∀ n ∈ folderNames isHidden es, ∃ visitFolder v, Fields.get? n (visits fields) = some visitFolder ∧
      Fields.get? n fields = some v ∧ ∀ disk, (visitFolder (.text path) disk).Orderly disk v
        (fun place => pageAt isHidden base path (.folder es) (n :: place)) (Path.join path n)
        ((Fields.get? n (Docs.courses isHidden es)).getD ⟨[], none⟩) := by
  intro n hn
  obtain ⟨t, v, ht, hv, hkept⟩ := hfields.folder n hn
  rw [get?_visits, get?_courses, ht, Option.map_some, Option.getD_some]
  by_cases hmem : n ∈ listNames
  · rcases mem_listNames.1 hmem with rfl | rfl
    · rw [hfields.folders]
      exact ⟨_, _, rfl, rfl, fun disk => visit_list_orderly _ _ disk _ _ _ _⟩
    · rw [hfields.files]
      exact ⟨_, _, rfl, rfl, fun disk => visit_list_orderly _ _ disk _ _ _ _⟩
  · rw [if_neg hmem, hkept hmem]
    refine ⟨_, _, rfl, rfl, fun disk => ?_⟩
    have hpage : (fun place => pageAt isHidden base path (.folder es) (n :: place)) =
        pageAt isHidden path (Path.join path n) t := by
      funext place
      rw [pageAt, FileTree.child?, FileTree.entries, ht, Option.getD_some]
    rw [hpage]
    exact ih n t ht v hv disk

private theorem visit_orderly {t : FileTree} {v : Value} (hproper : t.isProper)
    (h : folderRecord isHidden path t = .ok v) (base : String) (disk : Disk) :
    (visit v (.text base) disk).Orderly disk v (pageAt isHidden base path t) path (course isHidden t) := by
  induction t using FileTree.induction generalizing base path v disk with
  | file bytes =>
    rw [folderRecord] at h
    cases h
  | folder es ih =>
    obtain ⟨hnames, hentries⟩ := FileTree.isProper_folder hproper
    have hnodup : (folderNames isHidden es).Nodup :=
      hnames.filter _
    obtain ⟨_, fields, hes, rfl, hfields⟩ := folderRecord_ok h
    cases hes
    rw [visit, course]
    by_cases hname : "name" ∈ folderNames isHidden es
    · -- a record stands in the place of the folder's own name
      rw [draftStart_error hfields hname]
      exact orderly_of_nothing _ _ disk _ _ path _
    rw [draftStart_ok hfields hname, if_neg hname]
    simp only [renderSources_folder h]
    have hlist : (Value.record (Fields.put "_files" (.list ((orderedSources es).map .text)) fields)).field "_folders" =
        .ok (.list ((folderNames isHidden es).map .text)) :=
      Value.field_record_eq_ok.2 (by rw [Fields.get?_put_of_ne (by decide), hfields.folders])
    have hinner := visits_orderly hfields base fun n t ht v hv disk =>
      ih n t ht (hentries n t ht).2 hv path disk
    obtain ⟨horderly, record', hrecord', hkept⟩ := visitFolders_orderly hnodup hinner base
      (Fields.put "_files" (.list ((orderedSources es).map .text)) fields) disk
    obtain ⟨hstopped, hdone⟩ := visitPage_text hlist (visits fields) (.text base) path
      (headingText base path ++ sourcesText es) disk
    by_cases hfailure : (visitFolders (visits fields) (.text base) (.text path)
        ((folderNames isHidden es).map .text)
        (.record (Fields.put "_files" (.list ((orderedSources es).map .text)) fields)) disk).1.failure? = none
    · rw [hdone hfailure]
      refine horderly.orderly_writePage hfields.folders hfailure ?_ ?_
      · rw [hrecord', Value.field_record_eq_ok, hkept _ hname, Fields.get?_put_of_ne (by decide), hfields.name hname]
      · rw [(horderly.complete hfailure).2.2.2, pageAt, pageText, renderLinks, isEmpty_linksOf, linksOf,
          List.flatMap_map]
        rfl
    · rw [hstopped hfailure]
      exact horderly.orderly_of_failed hfields.folders hfailure path

/-! ### What is left on the disk -/

section

variable {disk disk' : Disk} {root : List String} {below : List (List String)} {text : List String → List Char}

/-- Where pages can be written there are folders, and no folder stands in the place of a page. -/
theorem publish_ok_of_leads (hleads : disk.Leads path root) (hnames : ∀ place ∈ below, ∀ n ∈ place, Path.IsName n)
    (h : publish (below.map fun place => ⟨place.foldl Path.join path, text place⟩) disk = (disk', .ok ())) :
    (∀ place ∈ below, disk.tree.look (root ++ place) = some .folder ∧ isFree disk.tree (root ++ place)) ∧
      disk' = { disk with tree := withPages root text below disk.tree } := by
  induction below generalizing disk with
  | nil =>
    cases h
    exact ⟨fun place hplace => (by cases hplace), rfl⟩
  | cons place below ih =>
    obtain ⟨hplace, hnames⟩ := List.forall_mem_cons.1 hnames
    -- the page has been written, so the path of its folder leads somewhere, and this is below `root`
    obtain ⟨disk₁, hwrite, hrest⟩ := publish_cons_ok h
    obtain ⟨_, hfolder⟩ := Disk.leads_of_write (Path.foldl_join_ne_empty hleads.ne place) isName_pageName hwrite
    obtain ⟨root', hroot', rfl⟩ := Disk.Leads.of_foldl_join hleads.ne hplace hfolder
    obtain rfl := hleads.unique hroot'
    rw [hfolder.write isName_pageName] at hwrite
    split at hwrite
    next => cases hwrite
    next hfree =>
      have hfree' : isFree disk.tree (root ++ place) := decide_eq_true hfree
      cases hwrite
      have hkept := look_put_page hfolder.folder hfree' (Text.Utf8.encode (text place))
      have hleads' : Disk.Leads { disk with
          tree := disk.tree.put (root ++ place ++ [pageName]) (.file (Text.Utf8.encode (text place))) } path root :=
        hleads.mono rfl fun q hq => (hkept q).2 hq
      obtain ⟨hall, hdisk⟩ := ih hleads' hnames hrest
      refine ⟨List.forall_mem_cons.2 ⟨⟨hfolder.folder, hfree'⟩, fun place' hplace' => ?_⟩, hdisk⟩
      obtain ⟨hlook, hisFree⟩ := hall place' hplace'
      exact ⟨(hkept _).1 hlook, (isFree_put_page hfolder.folder hfree' _ _).symm.trans hisFree⟩

/-- Where a page has been written the path leads to a folder. -/
theorem leads_of_publish (hne : path ≠ "") (hnames : ∀ place ∈ below, ∀ n ∈ place, Path.IsName n)
    (hbelow : below ≠ [])
    (h : publish (below.map fun place => ⟨place.foldl Path.join path, text place⟩) disk = (disk', .ok ())) :
    ∃ root, disk.Leads path root := by
  obtain ⟨place, rest, rfl⟩ := List.exists_cons_of_ne_nil hbelow
  obtain ⟨_, hwrite, -⟩ := publish_cons_ok h
  obtain ⟨_, hfolder⟩ := Disk.leads_of_write (Path.foldl_join_ne_empty hne place) isName_pageName hwrite
  obtain ⟨root, hroot, -⟩ := Disk.Leads.of_foldl_join hne (hnames place List.mem_cons_self) hfolder
  exact ⟨root, hroot⟩

/-- Nothing can be written below a path that leads nowhere. -/
private theorem publish_ok_of_lost (hne : path ≠ "") (hnames : ∀ place ∈ below, ∀ n ∈ place, Path.IsName n)
    (hlost : ∀ root, ¬disk.Leads path root)
    (h : publish (below.map fun place => ⟨place.foldl Path.join path, text place⟩) disk = (disk', .ok ())) :
    disk' = disk := by
  cases below with
  | nil =>
    cases h
    rfl
  | cons place below =>
    obtain ⟨root, hroot⟩ := leads_of_publish hne hnames (List.cons_ne_nil place below) h
    exact absurd hroot (hlost root)

end

/-- A run that fails leaves no wrong pages.  The record of a folder, made on one disk, is documented on another; the run
is a visit to the folder.  It writes the pages of the folders from which it returns, in this order, and each comes after
those of all folders in it.  Nothing else on the disk changes, and the pages are complete.  If it fails at a folder, it
has not returned from this folder or from any around it, and their pages are as before. -/
theorem failed_run_leaves_complete_pages {disk₀ disk : Disk} {path base : String} {info : Value} {r : Visit}
    (htree : disk₀.tree.isProper) (hinfo : folderRecordAt disk₀ path = .ok info)
    (hr : r = visit info (.text base) disk) :
    (draft info (.text base)).publish disk = (r.disk, r.outcome) ∧
    (∀ before place after, r.returned = before ++ place :: after →
      ∃ names, FoldersAt info place names ∧ ∀ n ∈ names, place ++ [n] ∈ before) ∧
    (r.failure? = none → [] ∈ r.returned) ∧
    (∃ t, disk₀.node path = .ok t ∧
      r.returned.map (pageAt disk₀.isFile base path t) <+: (draft info (.text base)).pages ∧
      publish (r.returned.map (pageAt disk₀.isFile base path t)) disk = (r.disk, .ok ()) ∧
      ∀ root, disk.Leads path root →
        (∀ place ∈ r.returned, r.disk.tree.look (root ++ place ++ [pageName]) =
          some (.file (Text.Utf8.encode (pageAt disk₀.isFile base path t place).text))) ∧
        ∀ other, (∀ place ∈ r.returned, other ≠ root ++ place ++ [pageName]) →
          r.disk.tree.look other = disk.tree.look other) ∧
    ((∀ root, ¬disk.Leads path root) → r.disk = disk) ∧
    ∀ place fault, r.failure? = some (place, fault) → ∀ q, q <+: place → q ∉ r.returned ∧
      ∀ root, disk.Leads path root →
        r.disk.tree.look (root ++ q ++ [pageName]) = disk.tree.look (root ++ q ++ [pageName]) := by
  obtain ⟨root₀, t, hleads₀, hat, hrecord⟩ := folderRecordAt_eq_ok hinfo
  obtain ⟨hproper, -⟩ := FileTree.isProper.names_of_at? htree hat
  have h := visit_orderly hproper hrecord base disk
  rw [← hr] at h
  have hnames : ∀ place ∈ r.returned, ∀ n ∈ place, Path.IsName n := fun place hplace =>
    (documented_below htree hat (mem_documented_of_course (h.start.subset hplace))).1
  have hwritten : publish (r.returned.map fun place =>
      ⟨place.foldl Path.join path, (pageAt disk₀.isFile base path t place).text⟩) disk = (r.disk, .ok ()) := by
    rw [← h.written]
    refine congrArg (publish · disk) (List.map_congr_left fun place _ => ?_)
    rw [← folder_pageAt disk₀.isFile base path t place]
  have hchanged : ∀ root, disk.Leads path root →
      (∀ place ∈ r.returned, r.disk.tree.look (root ++ place ++ [pageName]) =
        some (.file (Text.Utf8.encode (pageAt disk₀.isFile base path t place).text))) ∧
      ∀ other, (∀ place ∈ r.returned, other ≠ root ++ place ++ [pageName]) →
        r.disk.tree.look other = disk.tree.look other := by
    intro root hleads
    obtain ⟨hfree, hdisk⟩ := publish_ok_of_leads hleads hnames hwritten
    rw [hdisk]
    exact look_withPages (fun place hplace => (hfree place hplace).1) fun place hplace => (hfree place hplace).2
  have hpages : r.returned.map (pageAt disk₀.isFile base path t) <+: (draft info (.text base)).pages := by
    rw [(draft_follows hrecord base).pages]
    exact h.start.map _
  refine ⟨hr ▸ publish_draft info (.text base) disk, h.order, fun hok => (h.complete hok).2.2.1,
    ⟨t, hleads₀.node.2 hat, hpages, h.written, hchanged⟩,
    fun hlost => publish_ok_of_lost hleads₀.ne hnames hlost hwritten, ?_⟩
  intro place fault hfailure q hq
  have hnot := h.failed place fault hfailure q hq
  refine ⟨hnot, fun root hleads => (hchanged root hleads).2 _ fun place' hplace' heq => hnot ?_⟩
  rw [List.append_cancel_left (List.append_cancel_right heq)]
  exact hplace'

namespace Sample

/-- A disk on which a folder is described. -/
def described : Disk :=
  { tree := .folder [("d", .folder [("a", .empty), ("b", .folder [("c", .empty)])])], current := [] }

/-- The same disk later, when the innermost folder is gone and there is a page of the outermost. -/
def later : Disk :=
  { tree := .folder [("d", .folder [("a", .empty), ("b", .empty), (pageName, .file [35])])], current := [] }

private theorem later_leads : later.Leads "d" ["d"] := ⟨by decide, by decide, rfl, by decide⟩

end Sample

/-- The run returns from one folder and fails at the one that is gone; the pages of the two folders around it are not
written. -/
theorem sample_failed_run_leaves_complete_pages :
    ∃ info r, Sample.described.tree.isProper = true ∧ folderRecordAt Sample.described "d" = .ok info ∧
      r = visit info (.text "d") Sample.later ∧ r.returned = [["a"]] ∧
      (∃ fault, r.failure? = some (["b", "c"], fault)) ∧
      r.disk.tree.look ["d", "b", pageName] = Sample.later.tree.look ["d", "b", pageName] ∧
      r.disk.tree.look ["d", pageName] = Sample.later.tree.look ["d", pageName] := by
  have hrun : (folderRecordAt Sample.described "d").toOption.map (fun info =>
      ((visit info (.text "d") Sample.later).returned, (visit info (.text "d") Sample.later).failure?.map (·.1))) =
      some ([["a"]], some ["b", "c"]) := by decide +kernel
  have htree : Sample.described.tree.isProper = true := by decide +kernel
  cases hinfo : folderRecordAt Sample.described "d" with
  | error fault => simp [hinfo, Except.toOption] at hrun
  | ok info =>
    simp only [hinfo, Except.toOption, Option.map_some, Option.some.injEq, Prod.mk.injEq] at hrun
    obtain ⟨hreturned, hfailure⟩ := hrun
    obtain ⟨⟨place, fault⟩, hfailure, rfl⟩ := Option.map_eq_some_iff.1 hfailure
    obtain ⟨-, -, -, -, -, hfailed⟩ := failed_run_leaves_complete_pages htree hinfo
      (rfl : visit info (.text "d") Sample.later = visit info (.text "d") Sample.later)
    have houter := hfailed ["b", "c"] fault hfailure
    refine ⟨info, _, htree, rfl, rfl, hreturned, ⟨fault, hfailure⟩, ?_, ?_⟩
    · exact (houter ["b"] (by decide)).2 ["d"] Sample.later_leads
    · exact (houter [] (by decide)).2 ["d"] Sample.later_leads

end Docsmith.Docs
