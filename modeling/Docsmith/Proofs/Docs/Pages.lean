import Docsmith.Docs.Page
import Docsmith.Proofs.Docs.Folder
import Docsmith.Proofs.Value.Access

/-!
# The pages of a run

A draft without a fault has one page for every folder that the run documents, the inner ones first
(`folders_of_draft`).
-/

namespace Docsmith.Docs

theorem isName_pageName : Path.IsName pageName := by decide

/-! ### The folders of a run -/

mutual

/-- The places of the folders that a run documents, in the order of their pages. -/
def documented (isHidden : String → Bool) : FileTree → List (List String)
  | .file _ => []
  | .folder es =>
    (folderNames isHidden es).flatMap (fun name =>
      ((Fields.get? name (documentedIn isHidden es)).getD []).map (name :: ·)) ++ [[]]

/-- The places of the folders that a run documents in each entry of a folder. -/
def documentedIn (isHidden : String → Bool) : List (String × FileTree) → List (String × List (List String))
  | [] => []
  | (name, t) :: es => (name, documented isHidden t) :: documentedIn isHidden es

end

variable {isHidden : String → Bool} {path : String} {es : Fields FileTree} {t : FileTree}

theorem get?_documentedIn (name : String) :
    Fields.get? name (documentedIn isHidden es) = (es.get? name).map (documented isHidden) := by
  induction es with
  | nil => rfl
  | cons e es ih =>
    obtain ⟨k, t⟩ := e
    by_cases hk : k = name
    · simp [documentedIn, Fields.get?, hk]
    · simp [documentedIn, Fields.get?, hk, ih]

theorem mem_documented {place : List String} :
    place ∈ documented isHidden (.folder es) ↔ place = [] ∨ ∃ name t rest, es.get? name = some t ∧
      isFolderName isHidden name ∧ rest ∈ documented isHidden t ∧ place = name :: rest := by
  rw [documented, List.mem_append, List.mem_singleton, or_comm]
  refine or_congr_right ⟨fun h => ?_, ?_⟩
  · obtain ⟨name, hname, hplace⟩ := List.mem_flatMap.1 h
    obtain ⟨⟨t, ht⟩, hfolder⟩ := mem_folderNames.1 hname
    rw [get?_documentedIn, ht, Option.map_some, Option.getD_some] at hplace
    obtain ⟨rest, hrest, rfl⟩ := List.mem_map.1 hplace
    exact ⟨name, t, rest, ht, hfolder, hrest, rfl⟩
  · rintro ⟨name, t, rest, ht, hfolder, hrest, rfl⟩
    refine List.mem_flatMap.2 ⟨name, mem_folderNames.2 ⟨⟨t, ht⟩, hfolder⟩, ?_⟩
    rw [get?_documentedIn, ht, Option.map_some, Option.getD_some]
    exact List.mem_map_of_mem hrest

/-- Only folders are documented. -/
theorem look_of_mem_documented {place : List String} (h : place ∈ documented isHidden t) :
    t.look place = some .folder := by
  induction t using FileTree.induction generalizing place with
  | file bytes =>
    rw [documented] at h
    cases h
  | folder es ih =>
    rcases mem_documented.1 h with rfl | ⟨name, t, rest, ht, -, hrest, rfl⟩
    · rfl
    · rw [FileTree.look_cons, FileTree.child?, FileTree.entries, ht]
      exact ih name t ht hrest

/-- No folder of a proper tree is documented twice. -/
theorem nodup_documented (hproper : t.isProper) : (documented isHidden t).Nodup := by
  induction t using FileTree.induction with
  | file bytes =>
    rw [documented]
    exact List.nodup_nil
  | folder es ih =>
    obtain ⟨hnames, hentries⟩ := FileTree.isProper_folder hproper
    have hnodup : (folderNames isHidden es).Nodup :=
      hnames.filter _
    rw [documented]
    refine List.nodup_append.2 ⟨List.pairwise_flatMap.2 ⟨fun name hname => ?_, hnodup.imp ?_⟩,
      List.pairwise_singleton _ _, ?_⟩
    · obtain ⟨⟨t, ht⟩, -⟩ := mem_folderNames.1 hname
      rw [get?_documentedIn, ht, Option.map_some, Option.getD_some]
      exact List.Pairwise.map _ (fun _ _ hne h => hne (List.cons.inj h).2) (ih name t ht (hentries name t ht).2)
    · intro name name' hne place hplace place' hplace' heq
      obtain ⟨_, -, rfl⟩ := List.mem_map.1 hplace
      obtain ⟨_, -, rfl⟩ := List.mem_map.1 hplace'
      exact hne (List.cons.inj heq).1
    · intro place hplace other hother
      obtain ⟨_, -, hmap⟩ := List.mem_flatMap.1 hplace
      obtain ⟨_, -, rfl⟩ := List.mem_map.1 hmap
      rw [List.mem_singleton.1 hother]
      exact List.cons_ne_nil _ _

/-! ### Drafts -/

section

variable {inner : Fields (Value → Draft)} {base name record : Value} {names : List String} {fields : Fields Value}

/-- If every folder has its pages, all of them together are those of the folders one after another. -/
private theorem folders_of_draftFolders {folders : String → List String}
    (hinner : ∀ n ∈ names, ∀ draft, inner.get? n = some draft → (draft name).fault? = none →
      (draft name).pages.map Page.folder = folders n)
    (h : (draftFolders inner base name (names.map .text) record).1.fault? = none) :
    (draftFolders inner base name (names.map .text) record).1.pages.map Page.folder = names.flatMap folders := by
  induction names generalizing record with
  | nil => rfl
  | cons n names ih =>
    obtain ⟨hn, hinner⟩ := List.forall_mem_cons.1 hinner
    rw [List.map_cons, draftFolders] at h ⊢
    cases hlookup : Value.lookup inner (.text n) with
    | error fault => simp [hlookup] at h
    | ok draft =>
      obtain ⟨_, hkey, hget⟩ := Value.lookup_eq_ok hlookup
      cases hkey
      simp only [hlookup] at h ⊢
      cases hfault : (draft name).fault? with
      | some fault => simp [hfault] at h
      | none =>
        simp only [hfault] at h ⊢
        cases hlink : (draft name).record.field "name" >>= renderLink base name with
        | error fault => simp [hlink] at h
        | ok link =>
          simp only [hlink] at h ⊢
          rw [List.map_append, hn draft hget hfault, ih hinner h, List.flatMap_cons]

theorem get?_drafts (n : String) :
    Fields.get? n (drafts fields) = (fields.get? n).map fun v base => draft v base := by
  induction fields with
  | nil => rfl
  | cons f fields ih =>
    obtain ⟨k, v⟩ := f
    by_cases hk : k = n
    · simp [drafts, Fields.get?, hk]
    · simp [drafts, Fields.get?, hk, ih]

/-- A page that is drafted without a fault comes after those of the folders. -/
private theorem draftPage_ok {top : List Char} (hfolders : record.field "_folders" = .ok (.list (names.map .text)))
    (h : (draftPage inner base name top record).fault? = none) :
    ∃ path text, name = .text path ∧
      (draftFolders inner base name (names.map .text) record).1.fault? = none ∧
      (draftPage inner base name top record).pages =
        (draftFolders inner base name (names.map .text) record).1.pages ++ [⟨path, text⟩] := by
  unfold draftPage at h ⊢
  rw [hfolders] at h ⊢
  cases names with
  | nil =>
    cases name with
    | text path => exact ⟨path, top, rfl, rfl, rfl⟩
    | _ => cases h
  | cons n names =>
    cases name with
    | text path =>
      simp only [bind, Except.bind, Value.truthy, List.map_cons, List.isEmpty_cons, Bool.not_false, if_true,
        Value.elements, Except.map] at h ⊢
      cases hfault : (draftFolders inner base (.text path) (.text n :: names.map .text) record).1.fault? with
      | some fault => simp [hfault] at h
      | none =>
        exact ⟨path, _, rfl, rfl, rfl⟩
    | _ => cases h

/-- What a draft starts with: the name of the folder, its heading and its sources in order. -/
def draftStart (fields : Fields Value) (base : Value) : Outcome (Value × List Char × Value) := do
  let name ← (Value.record fields).field "name"
  let heading ← renderHeading name base
  let sources ← orderSources (← (Value.record fields).field "_files")
  .ok (name, heading, sources)

theorem draft_record (fields : Fields Value) (base : Value) :
    draft (.record fields) base =
      match draftStart fields base with
      | .error fault => ⟨[], .record fields, some fault⟩
      | .ok (name, heading, sources) =>
        match renderSources (.record (fields.put "_files" sources)) sources with
        | .error fault => ⟨[], .record (fields.put "_files" sources), some fault⟩
        | .ok sections =>
          draftPage (drafts fields) base name (heading ++ sections) (.record (fields.put "_files" sources)) := by
  unfold draft
  rfl

/-- What a draft of a record is made of, if it has no fault. -/
private theorem draft_ok (hfolders : fields.get? "_folders" = some (.list (names.map .text)))
    (h : (draft (.record fields) base).fault? = none) :
    ∃ path text record, fields.get? "name" = some (.text path) ∧
      (draftFolders (drafts fields) base (.text path) (names.map .text) record).1.fault? = none ∧
      (draft (.record fields) base).pages =
        (draftFolders (drafts fields) base (.text path) (names.map .text) record).1.pages ++ [⟨path, text⟩] := by
  rw [draft_record] at h ⊢
  cases hstart : draftStart fields base with
  | error fault => simp [hstart] at h
  | ok start =>
    obtain ⟨name, heading, sources⟩ := start
    simp only [hstart] at h ⊢
    cases hsections : renderSources (.record (fields.put "_files" sources)) sources with
    | error fault => simp [hsections] at h
    | ok sections =>
      simp only [hsections] at h ⊢
      have hlist : (Value.record (fields.put "_files" sources)).field "_folders" = .ok (.list (names.map .text)) :=
        Value.field_record_eq_ok.2 (by rw [Fields.get?_put_of_ne (by decide), hfolders])
      obtain ⟨path, text, rfl, hfault, hpages⟩ := draftPage_ok hlist h
      obtain ⟨name, hname, hrest⟩ := Outcome.bind_eq_ok.1 hstart
      obtain ⟨_, -, hrest⟩ := Outcome.bind_eq_ok.1 hrest
      obtain ⟨_, -, hrest⟩ := Outcome.bind_eq_ok.1 hrest
      obtain ⟨_, -, hrest⟩ := Outcome.bind_eq_ok.1 hrest
      cases hrest
      exact ⟨path, text, _, Value.field_record_eq_ok.1 hname, hfault, hpages⟩

end

/-- A draft without a fault has a page for every folder that the run documents. -/
theorem folders_of_draft {v base : Value} (hrecord : folderRecord isHidden path t = .ok v)
    (h : (draft v base).fault? = none) :
    (draft v base).pages.map Page.folder = (documented isHidden t).map (·.foldl Path.join path) := by
  induction t using FileTree.induction generalizing path v base with
  | file bytes =>
    rw [folderRecord] at hrecord
    cases hrecord
  | folder es ih =>
    obtain ⟨_, fields, hes, rfl, hfields⟩ := folderRecord_ok hrecord
    cases hes
    obtain ⟨path', text, record, hname, hfault, hpages⟩ := draft_ok hfields.folders h
    -- an entry `name` would have put its record in the place of the path
    have hentry : "name" ∉ folderNames isHidden es := by
      intro hmem
      obtain ⟨t, v, -, hv, hget⟩ := hfields.folder "name" hmem
      obtain ⟨_, _, -, rfl, -⟩ := folderRecord_ok hv
      cases hname.symm.trans (hget (by decide))
    cases hname.symm.trans (hfields.name hentry)
    rw [hpages, List.map_append, documented, List.map_append]
    refine congrArg (· ++ _) ?_
    rw [List.map_flatMap]
    refine folders_of_draftFolders ?_ hfault
    intro n hn draftFolder hget hnone
    obtain ⟨t, v, ht, hv, hkept⟩ := hfields.folder n hn
    rw [get?_drafts] at hget
    obtain ⟨w, hw, rfl⟩ := Option.map_eq_some_iff.1 hget
    -- where an entry is lost a list stands in its place, and that has no pages
    have hlist : n ∉ listNames := by
      intro hmem
      rcases mem_listNames.1 hmem with rfl | rfl
      · cases hw.symm.trans hfields.folders
        simp [draft] at hnone
      · cases hw.symm.trans hfields.files
        simp [draft] at hnone
    cases hw.symm.trans (hkept hlist)
    rw [ih n t ht hv hnone, get?_documentedIn, ht, Option.map_some, Option.getD_some, List.map_map]
    rfl

end Docsmith.Docs
