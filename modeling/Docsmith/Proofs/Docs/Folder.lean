import Docsmith.Docs.Folder
import Docsmith.Proofs.FileTree.Path

/-!
# The record of a folder

The fields of a folder's record, read off the entries of the folder: `FolderFields`.  The record depends on the order
in which fields were first put in as well, which is that of the names (`names_addRecords`).
-/

namespace Docsmith

namespace Fields

variable {α : Type} {name : String} {fs fs' : Fields α}

theorem nodup_put (h : fs.names.Nodup) (name : String) (v : α) : (fs.put name v).names.Nodup := by
  rw [names_put]
  split
  next => exact h
  next hname =>
    refine List.nodup_append.2 ⟨h, List.pairwise_singleton _ _, ?_⟩
    intro n hn m hm heq
    rw [heq, List.mem_singleton.1 hm] at hn
    exact hname hn

/-- Two tables are equal if they have the same names in the same order, and the same value under each. -/
theorem ext_get? (hnodup : fs.names.Nodup) (hnames : fs.names = fs'.names)
    (hget : ∀ name, fs.get? name = fs'.get? name) : fs = fs' := by
  induction fs generalizing fs' with
  | nil =>
    cases fs' with
    | nil => rfl
    | cons f fs' => cases hnames
  | cons f fs ih =>
    cases fs' with
    | nil => cases hnames
    | cons f' fs' =>
      obtain ⟨k, v⟩ := f
      obtain ⟨k', v'⟩ := f'
      obtain ⟨rfl, htail⟩ : k = k' ∧ names fs = names fs' := List.cons.inj hnames
      obtain ⟨hk, hnodup⟩ := List.nodup_cons.1 hnodup
      have hv : v = v' := by simpa [get?] using hget k
      have hfs : fs = fs' := by
        refine ih hnodup htail fun name => ?_
        by_cases hname : k = name
        · -- the name of the head is in neither tail
          subst hname
          have hnone : ∀ gs : Fields α, k ∉ gs.names → gs.get? k = none := fun gs hgs =>
            Option.not_isSome_iff_eq_none.1 fun hsome => hgs (get?_isSome_iff.1 hsome)
          rw [hnone fs hk, hnone fs' (htail ▸ hk)]
        · simpa [get?, hname] using hget name
      rw [hv, hfs]

end Fields

/-- How a computation ends, apart from its result. -/
def Outcome.ending {α : Type} (o : Outcome α) : Outcome Unit := o.map fun _ => ()

namespace Docs

variable {isHidden isHidden' : String → Bool} {path : String} {es : Fields FileTree}

/-! ### Adding records -/

section

variable {records records' : Fields (Outcome Value)} {names : List String} {fields fields' added added' : Fields Value}

private theorem addRecords_cons_ok {name : String}
    (h : addRecords path records (name :: names) fields = .ok added) :
    ∃ v, records.get? name = some (.ok v) ∧ addRecords path records names (fields.put name v) = .ok added := by
  rw [addRecords] at h
  cases hget : records.get? name with
  | none => simp [hget] at h
  | some record =>
    rw [hget] at h
    obtain ⟨v, rfl, hrest⟩ := Outcome.bind_eq_ok.1 h
    exact ⟨v, rfl, hrest⟩

private theorem addRecords_congr (h : ∀ n ∈ names, records.get? n = records'.get? n) (fields : Fields Value) :
    addRecords path records names fields = addRecords path records' names fields := by
  induction names generalizing fields with
  | nil => rfl
  | cons n names ih =>
    obtain ⟨hn, h⟩ := List.forall_mem_cons.1 h
    simp only [addRecords, hn, ih h]

/-- What records are added: those of the given names, and under every other name the field stays. -/
theorem addRecords_ok (h : addRecords path records names fields = .ok added) :
    (∀ n ∈ names, ∃ v, records.get? n = some (.ok v) ∧ added.get? n = some v) ∧
      ∀ n, n ∉ names → added.get? n = fields.get? n := by
  induction names generalizing fields with
  | nil =>
    cases h
    exact ⟨fun n hn => (nomatch hn), fun n _ => rfl⟩
  | cons name names ih =>
    obtain ⟨v, hv, h⟩ := addRecords_cons_ok h
    obtain ⟨hadded, hkept⟩ := ih h
    constructor
    · intro n hn
      by_cases hmem : n ∈ names
      · exact hadded n hmem
      · obtain rfl : n = name := (List.mem_cons.1 hn).resolve_right hmem
        exact ⟨v, hv, by rw [hkept n hmem, Fields.get?_put_self]⟩
    · intro n hn
      obtain ⟨hne, hmem⟩ : n ≠ name ∧ n ∉ names := by simpa using hn
      rw [hkept n hmem, Fields.get?_put_of_ne hne]

/-- Records that end alike are added alike, whatever they are. -/
theorem addRecords_ending
    (h : ∀ n ∈ names, (records.get? n).map Outcome.ending = (records'.get? n).map Outcome.ending)
    (fields fields' : Fields Value) :
    (addRecords path records names fields).ending = (addRecords path records' names fields').ending := by
  induction names generalizing fields fields' with
  | nil => rfl
  | cons n names ih =>
    obtain ⟨hn, h⟩ := List.forall_mem_cons.1 h
    simp only [addRecords]
    cases hr : records.get? n with
    | none =>
      rw [hr] at hn
      rw [Option.map_eq_none_iff.1 hn.symm]
    | some o =>
      rw [hr] at hn
      obtain ⟨o', ho', hending⟩ := Option.map_eq_some_iff.1 hn.symm
      rw [ho']
      cases o with
      | error e =>
        cases o' with
        | error e' => cases hending; rfl
        | ok v' => cases hending
      | ok v =>
        cases o' with
        | error e' => cases hending
        | ok v' => exact ih h _ _

theorem names_addRecords (h : addRecords path records names fields = .ok added)
    (h' : addRecords path records' names fields' = .ok added') (hnames : fields.names = fields'.names) :
    added.names = added'.names := by
  induction names generalizing fields fields' with
  | nil =>
    cases h
    cases h'
    exact hnames
  | cons name names ih =>
    obtain ⟨v, -, h⟩ := addRecords_cons_ok h
    obtain ⟨v', -, h'⟩ := addRecords_cons_ok h'
    exact ih h h' (by rw [Fields.names_put, Fields.names_put, hnames])

theorem nodup_addRecords (h : addRecords path records names fields = .ok added) (hnodup : fields.names.Nodup) :
    added.names.Nodup := by
  induction names generalizing fields with
  | nil =>
    cases h
    exact hnodup
  | cons name names ih =>
    obtain ⟨v, -, h⟩ := addRecords_cons_ok h
    exact ih h (Fields.nodup_put hnodup name v)

end

/-! ### The entries of a folder -/

/-- The entries of a folder that are taken for folders, in order. -/
def folderNames (isHidden : String → Bool) (es : Fields FileTree) : List String :=
  es.names.filter (isFolderName isHidden)

/-- The entries of a folder that are taken for sources, in order. -/
def sourceNames (es : Fields FileTree) : List String := es.names.filter isSourceName

theorem mem_folderNames {name : String} :
    name ∈ folderNames isHidden es ↔ (∃ t, es.get? name = some t) ∧ isFolderName isHidden name := by
  rw [folderNames, List.mem_filter, ← Fields.get?_isSome_iff, Option.isSome_iff_exists]

theorem mem_sourceNames {name : String} : name ∈ sourceNames es ↔ (∃ t, es.get? name = some t) ∧ isSourceName name := by
  rw [sourceNames, List.mem_filter, ← Fields.get?_isSome_iff, Option.isSome_iff_exists]

theorem get?_sourceRecords {name : String} (hname : isSourceName name) :
    (sourceRecords path es).get? name = (es.get? name).map (sourceRecord (Path.join path name)) := by
  unfold sourceRecords
  induction es with
  | nil => rfl
  | cons e es ih =>
    obtain ⟨k, t⟩ := e
    by_cases hk : k = name
    · subst hk
      simp [hname, Fields.get?]
    · by_cases hsource : isSourceName k
      · simp [hsource, Fields.get?, hk, ih]
      · simp [hsource, Fields.get?, hk, ih]

theorem get?_folderRecords {name : String} (hname : isFolderName isHidden name) :
    Fields.get? name (folderRecords isHidden path es) =
      (es.get? name).map (folderRecord isHidden (Path.join path name)) := by
  induction es with
  | nil => rfl
  | cons e es ih =>
    obtain ⟨k, t⟩ := e
    by_cases hk : k = name
    · subst hk
      simp [folderRecords, hname, Fields.get?]
    · by_cases hfolder : isFolderName isHidden k
      · simp [folderRecords, hfolder, Fields.get?, hk, ih]
      · simp [folderRecords, hfolder, Fields.get?, hk, ih]

/-! ### The record -/

/-- The names of the lists in the record of a folder.  They are put in last, so an entry of such a name is lost. -/
def listNames : List String := ["_folders", "_files"]

theorem mem_listNames {name : String} : name ∈ listNames ↔ name = "_folders" ∨ name = "_files" := by simp [listNames]

/-- The fields that every record of a folder starts with. -/
def firstFields (path : String) : Fields Value := [("name", .text path), ("type", .text "folder")]

/-- The fields of the record, with its lists. -/
def withLists (isHidden : String → Bool) (es : Fields FileTree) (fields : Fields Value) : Fields Value :=
  (fields.put "_folders" (.list ((folderNames isHidden es).map .text))).put "_files"
    (.list ((sourceNames es).map .text))

theorem folderRecord_folder (isHidden : String → Bool) (path : String) (es : Fields FileTree) :
    folderRecord isHidden path (.folder es) = (do
      let fields ← addRecords path (sourceRecords path es) (sourceNames es) (firstFields path)
      ((addRecords path (folderRecords isHidden path es) (folderNames isHidden es) fields).map
        (withLists isHidden es)).map .record) := by
  rw [folderRecord]
  refine congrArg _ (funext fun fields => ?_)
  cases h : addRecords path (folderRecords isHidden path es) (folderNames isHidden es) fields with
  | error fault => exact congrArg (· >>= _) h
  | ok added => exact congrArg (· >>= _) h

/-- The record of a folder is made of the names of its sources and folders and of their records. -/
theorem folderRecord_folder_congr {es' : Fields FileTree} (hsources : sourceNames es = sourceNames es')
    (hfolders : folderNames isHidden es = folderNames isHidden es')
    (hsource : ∀ n ∈ sourceNames es, (sourceRecords path es).get? n = (sourceRecords path es').get? n)
    (hfolder : ∀ n ∈ folderNames isHidden es,
      Fields.get? n (folderRecords isHidden path es) = Fields.get? n (folderRecords isHidden path es')) :
    folderRecord isHidden path (.folder es) = folderRecord isHidden path (.folder es') := by
  have hlists : withLists isHidden es = withLists isHidden es' := by
    funext fields
    rw [withLists, withLists, hsources, hfolders]
  rw [folderRecord_folder, folderRecord_folder, addRecords_congr hsource, hlists, hsources, hfolders]
  refine congrArg _ (funext fun fields => ?_)
  rw [addRecords_congr (hfolders ▸ hfolder)]

theorem get?_withLists {name : String} (hname : name ∉ listNames) (fields : Fields Value) :
    (withLists isHidden es fields).get? name = fields.get? name := by
  obtain ⟨hfolders, hfiles⟩ := not_or.1 (mt mem_listNames.2 hname)
  rw [withLists, Fields.get?_put_of_ne hfiles, Fields.get?_put_of_ne hfolders]

/-- The fields of the record of a folder, by the entries of the folder. -/
structure FolderFields (isHidden : String → Bool) (path : String) (es : Fields FileTree) (fields : Fields Value) :
    Prop where
  files : fields.get? "_files" = some (.list ((sourceNames es).map .text))
  folders : fields.get? "_folders" = some (.list ((folderNames isHidden es).map .text))
  name : "name" ∉ folderNames isHidden es → fields.get? "name" = some (.text path)
  folder : ∀ n ∈ folderNames isHidden es, ∃ t v, es.get? n = some t ∧
    folderRecord isHidden (Path.join path n) t = .ok v ∧ (n ∉ listNames → fields.get? n = some v)

theorem folderRecord_ok {t : FileTree} {v : Value} (h : folderRecord isHidden path t = .ok v) :
    ∃ es fields, t = .folder es ∧ v = .record fields ∧ FolderFields isHidden path es fields := by
  cases t with
  | file bytes =>
    rw [folderRecord] at h
    cases h
  | folder es =>
    rw [folderRecord_folder] at h
    obtain ⟨withSources, hsources, hrecord⟩ := Outcome.bind_eq_ok.1 h
    obtain ⟨_, hlists, rfl⟩ := Outcome.map_eq_ok.1 hrecord
    obtain ⟨fields, hfolders, rfl⟩ := Outcome.map_eq_ok.1 hlists
    obtain ⟨-, hkept⟩ := addRecords_ok hsources
    obtain ⟨hadded, hkept'⟩ := addRecords_ok hfolders
    refine ⟨es, _, rfl, rfl, ⟨?_, ?_, ?_, ?_⟩⟩
    · exact Fields.get?_put_self _ _ _
    · rw [withLists, Fields.get?_put_of_ne (by decide), Fields.get?_put_self]
    · intro hname
      have hsource : "name" ∉ sourceNames es := fun hmem => absurd (mem_sourceNames.1 hmem).2 (by decide)
      rw [get?_withLists (by decide), hkept' _ hname, hkept _ hsource]
      rfl
    · intro n hn
      obtain ⟨⟨t, ht⟩, hfolder⟩ := mem_folderNames.1 hn
      obtain ⟨v, hv, hget⟩ := hadded n hn
      rw [get?_folderRecords hfolder, ht] at hv
      refine ⟨t, v, ht, Option.some.inj hv, fun hlist => ?_⟩
      rw [get?_withLists hlist, hget]

end Docs

end Docsmith
