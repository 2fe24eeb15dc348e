import Docsmith.Proofs.Docs.Pages

/-!
# Visits

A run drafts all its pages and then writes them.  It can also be told folder by folder: a visit to a folder visits the
folders in it, one after another, and then writes the page of the folder.  Told like this it shows which visits have
returned and at which folder the run fails.  The two come to the same (`publish_draft`).
-/

namespace Docsmith.Docs

/-- What a visit to a folder comes to: the record with its sources ordered, the disk, the places of the folders from
which the run has returned, in order, and the place of the folder at which it fails, with the fault. -/
structure Visit where
  record : Value
  disk : Disk
  returned : List (List String)
  failure? : Option (List String × Fault)

namespace Visit

/-- How a visit ends. -/
def outcome (r : Visit) : Outcome Unit :=
  match r.failure? with
  | none => .ok ()
  | some (_, fault) => .error fault

/-- The way to a folder from the one that it is in. -/
def step : Value → List String
  | .text n => [n]
  | _ => []

/-- A visit to a folder, seen from the folder that it is in. -/
def inside (folder : Value) (r : Visit) : Visit :=
  { r with
    returned := r.returned.map (step folder ++ ·)
    failure? := r.failure?.map fun f => (step folder ++ f.1, f.2) }

/-- The page of the folder itself is written last. -/
def writePage (path : String) (text : List Char) (r : Visit) : Visit :=
  match r.disk.write path pageName (Text.Utf8.encode text) with
  | .ok disk => { r with disk := disk, returned := r.returned ++ [[]] }
  | .error fault => { r with failure? := some ([], fault) }

end Visit

/-- Visits to the folders in a folder, and the links to them.  `inner` visits the folder under each name. -/
def visitFolders (inner : Fields (Value → Disk → Visit)) (base name : Value) :
    List Value → Value → Disk → Visit × List Char
  | [], record, disk => (⟨record, disk, [], none⟩, [])
  | folder :: folders, record, disk =>
    match Value.lookup inner folder with
    | .error fault => (⟨record, disk, [], some ([], fault)⟩, [])
    | .ok visitFolder =>
      let sub := (visitFolder name disk).inside folder
      let record := setPart folder sub.record record
      match sub.failure? with
      | some _ => ({ sub with record := record }, [])
      | none =>
        match sub.record.field "name" >>= renderLink base name with
        | .error fault => ({ sub with record := record, failure? := some ([], fault) }, [])
        | .ok link =>
          let (rest, links) := visitFolders inner base name folders record sub.disk
          ({ rest with returned := sub.returned ++ rest.returned }, link ++ links)

/-- Visits to the folders in a folder, and then the page of the folder, which starts with `top`. -/
def visitPage (inner : Fields (Value → Disk → Visit)) (base name : Value) (top : List Char) (record : Value)
    (disk : Disk) : Visit :=
  let folders := do
    let folders ← record.field "_folders"
    if folders.truthy then folders.elements.map some else .ok none
  match folders, name with
  | .error fault, _ => ⟨record, disk, [], some ([], fault)⟩
  | .ok none, .text path => Visit.writePage path top ⟨record, disk, [], none⟩
  | .ok (some folders), .text path =>
    let (sub, links) := visitFolders inner base name folders record disk
    match sub.failure? with
    | some _ => sub
    | none => sub.writePage path (top ++ "## Subdirectory Links:\n".toList ++ links)
  | _, _ => ⟨record, disk, [], some ([], .wrongType)⟩

mutual

/-- A visit to the folder of a record; `base` is taken away from the names on the folder's own page. -/
def visit : Value → Value → Disk → Visit
  | .record fields, base, disk =>
    match draftStart fields base with
    | .error fault => ⟨.record fields, disk, [], some ([], fault)⟩
    | .ok (name, heading, sources) =>
      let record := Value.record (Fields.put "_files" sources fields)
      match renderSources record sources with
      | .error fault => ⟨record, disk, [], some ([], fault)⟩
      | .ok sections => visitPage (visits fields) base name (heading ++ sections) record disk
  | info, _, disk => ⟨info, disk, [], some ([], .wrongType)⟩

/-- Visits to the parts of a record. -/
def visits : List (String × Value) → List (String × (Value → Disk → Visit))
  | [] => []
  | (name, v) :: fields => (name, fun base disk => visit v base disk) :: visits fields

end

theorem get?_visits (n : String) (fields : Fields Value) :
    Fields.get? n (visits fields) = (fields.get? n).map fun v base disk => visit v base disk := by
  induction fields with
  | nil => rfl
  | cons f fields ih =>
    obtain ⟨k, v⟩ := f
    by_cases hk : k = n
    · simp [visits, Fields.get?, hk]
    · simp [visits, Fields.get?, hk, ih]

/-! ### Drafts and visits -/

variable {disk disk' : Disk} {fault : Fault}

theorem publish_append (first second : List Page) (disk : Disk) :
    publish (first ++ second) disk = match publish first disk with
      | (disk, .ok ()) => publish second disk
      | (disk, .error fault) => (disk, .error fault) := by
  induction first generalizing disk with
  | nil => rfl
  | cons page first ih =>
    rw [List.cons_append, publish, publish]
    cases disk.write page.folder pageName (Text.Utf8.encode page.text) with
    | error fault => rfl
    | ok disk => exact ih disk

/-- How the pages of a draft are written decides what it comes to. -/
private theorem Draft.publish_of_ok {d : Draft} (h : Docs.publish d.pages disk = (disk', .ok ())) :
    d.publish disk = (disk', d.fault?.elim (.ok ()) .error) := by
  rw [Draft.publish, h]
  cases d.fault? <;> rfl

private theorem Draft.publish_of_error {d : Draft} (h : Docs.publish d.pages disk = (disk', .error fault)) :
    d.publish disk = (disk', .error fault) := by
  rw [Draft.publish, h]

private theorem Draft.publish_append {first : List Page} (h : Docs.publish first disk = (disk', .ok ())) (d : Draft) :
    Draft.publish ⟨first ++ d.pages, d.record, d.fault?⟩ disk = d.publish disk' := by
  rw [Draft.publish, Draft.publish, Docs.publish_append, h]

/-- A visit does what publishing a draft does. -/
structure Visit.Agrees (r : Visit) (d : Draft) (disk : Disk) : Prop where
  run : d.publish disk = (r.disk, r.outcome)
  record : r.failure? = none → r.record = d.record

namespace Visit.Agrees

variable {r : Visit} {d : Draft}

private theorem of_ok (h : r.Agrees d disk) (hok : r.failure? = none) :
    publish d.pages disk = (r.disk, .ok ()) ∧ d.fault? = none := by
  have hrun := h.run
  rw [outcome, hok] at hrun
  rcases hpages : publish d.pages disk with ⟨disk', fault | _⟩
  · simp [Draft.publish_of_error hpages] at hrun
  · rw [Draft.publish_of_ok hpages, Prod.mk.injEq] at hrun
    cases hfault : d.fault? with
    | none => exact ⟨by rw [hrun.1], rfl⟩
    | some fault => simp [hfault] at hrun

private theorem of_failure (h : r.Agrees d disk) {place : List String} (hfail : r.failure? = some (place, fault)) :
    publish d.pages disk = (r.disk, .error fault) ∨
      publish d.pages disk = (r.disk, .ok ()) ∧ d.fault? = some fault := by
  have hrun := h.run
  rw [outcome, hfail] at hrun
  rcases hpages : publish d.pages disk with ⟨disk', fault' | _⟩
  · rw [Draft.publish_of_error hpages] at hrun
    exact .inl hrun
  · rw [Draft.publish_of_ok hpages, Prod.mk.injEq] at hrun
    cases hfault : d.fault? with
    | none => simp [hfault] at hrun
    | some fault' =>
      rw [hfault] at hrun
      exact .inr ⟨by rw [hrun.1], congrArg some (Except.error.inj hrun.2)⟩

end Visit.Agrees

theorem Visit.inside_disk (folder : Value) (r : Visit) : (r.inside folder).disk = r.disk := rfl

theorem Visit.inside_record (folder : Value) (r : Visit) : (r.inside folder).record = r.record := rfl

private theorem Visit.inside_failure {folder : Value} {r : Visit} {place : List String}
    (h : r.failure? = some (place, fault)) :
    (r.inside folder).failure? = some (step folder ++ place, fault) := by
  simp [inside, h]

theorem Visit.inside_failure_none {folder : Value} {r : Visit} :
    (r.inside folder).failure? = none ↔ r.failure? = none :=
  Option.map_eq_none_iff

/-- Two tables have the same names, and the visits of one do what the drafts of the other do. -/
def Alike (inner : Fields (Value → Draft)) (inner' : Fields (Value → Disk → Visit)) : Prop :=
  ∀ n, (inner.get? n = none ∧ inner'.get? n = none) ∨
    ∃ d v, inner.get? n = some d ∧ inner'.get? n = some v ∧ ∀ base disk, (v base disk).Agrees (d base) disk

private theorem Alike.lookup {inner : Fields (Value → Draft)} {inner' : Fields (Value → Disk → Visit)}
    (h : Alike inner inner') (folder : Value) :
    (∃ fault, Value.lookup inner folder = .error fault ∧ Value.lookup inner' folder = .error fault) ∨
      ∃ d v, Value.lookup inner folder = .ok d ∧ Value.lookup inner' folder = .ok v ∧
        ∀ base disk, (v base disk).Agrees (d base) disk := by
  cases folder with
  | text n =>
    rcases h n with ⟨hd, hv⟩ | ⟨d, v, hd, hv, hagrees⟩
    · exact .inl ⟨.missingKey (.text n), by simp [Value.lookup, hd], by simp [Value.lookup, hv]⟩
    · exact .inr ⟨d, v, by simp [Value.lookup, hd], by simp [Value.lookup, hv], hagrees⟩
  | _ => exact .inl ⟨_, rfl, rfl⟩

section

variable {inner : Fields (Value → Draft)} {inner' : Fields (Value → Disk → Visit)}

private theorem visitFolders_agrees (hinner : Alike inner inner') (base name : Value) (folders : List Value)
    (record : Value) (disk : Disk) :
    (visitFolders inner' base name folders record disk).1.Agrees (draftFolders inner base name folders record).1 disk ∧
      ((visitFolders inner' base name folders record disk).1.failure? = none →
        (visitFolders inner' base name folders record disk).2 = (draftFolders inner base name folders record).2) := by
  induction folders generalizing record disk with
  | nil => exact ⟨⟨rfl, fun _ => rfl⟩, fun _ => rfl⟩
  | cons folder folders ih =>
    rw [visitFolders, draftFolders]
    rcases hinner.lookup folder with ⟨fault, hd, hv⟩ | ⟨d, v, hd, hv, hagrees⟩
    · rw [hd, hv]
      exact ⟨⟨rfl, fun h => by cases h⟩, fun _ => rfl⟩
    rw [hd, hv]
    simp only
    have hsub := hagrees name disk
    generalize v name disk = r at hsub
    generalize d name = sub at hsub
    rw [Visit.inside_record, Visit.inside_disk]
    cases hfailure : r.failure? with
    | some failure =>
      obtain ⟨place, fault⟩ := failure
      rw [Visit.inside_failure hfailure]
      simp only
      refine ⟨⟨?_, fun h => by cases h⟩, fun h => by cases h⟩
      rcases hsub.of_failure hfailure with herror | ⟨hpages, hfault⟩
      · -- a page cannot be written, whatever the draft has after it
        cases sub.fault? with
        | some fault' => exact Draft.publish_of_error herror
        | none =>
          simp only
          cases sub.record.field "name" >>= renderLink base name with
          | error fault' => exact Draft.publish_of_error herror
          | ok link =>
            refine Draft.publish_of_error ?_
            rw [publish_append, herror]
      · rw [hfault]
        exact Draft.publish_of_ok hpages
    | none =>
      obtain ⟨hpages, hfault⟩ := hsub.of_ok hfailure
      rw [Visit.inside_failure_none.2 hfailure, hfault, hsub.record hfailure]
      simp only
      cases sub.record.field "name" >>= renderLink base name with
      | error fault => exact ⟨⟨Draft.publish_of_ok hpages, fun h => by cases h⟩, fun h => by cases h⟩
      | ok link =>
        obtain ⟨hrest, hlinks⟩ := ih (setPart folder sub.record record) r.disk
        refine ⟨⟨?_, hrest.record⟩, fun h => congrArg (link ++ ·) (hlinks h)⟩
        exact (Draft.publish_append hpages _).trans hrest.run

/-- The page of the folder comes last in the draft, and it is written last. -/
private theorem writePage_agrees {r : Visit} {d : Draft} (h : r.Agrees d disk) (hok : r.failure? = none) (path : String)
    (text : List Char) : (r.writePage path text).Agrees { d with pages := d.pages ++ [⟨path, text⟩] } disk := by
  obtain ⟨hpages, hfault⟩ := h.of_ok hok
  unfold Visit.writePage
  cases hwrite : r.disk.write path pageName (Text.Utf8.encode text) with
  | error fault =>
    refine ⟨Draft.publish_of_error ?_, fun h => by cases h⟩
    rw [publish_append, hpages]
    simp only [publish, hwrite]
  | ok disk' =>
    refine ⟨?_, h.record⟩
    have hall : publish (d.pages ++ [⟨path, text⟩]) disk = (disk', .ok ()) := by
      rw [publish_append, hpages]
      simp only [publish, hwrite]
    rw [Draft.publish_of_ok hall, Visit.outcome, hok, hfault]
    rfl

private theorem visitPage_agrees (hinner : Alike inner inner') (base name : Value) (top : List Char) (record : Value)
    (disk : Disk) :
    (visitPage inner' base name top record disk).Agrees (draftPage inner base name top record) disk := by
  unfold visitPage draftPage
  generalize (do
    let folders ← record.field "_folders"
    if folders.truthy then folders.elements.map some else .ok none : Outcome (Option (List Value))) = folders
  rcases folders with fault | _ | folders
  · exact ⟨rfl, fun h => by cases h⟩
  · cases name with
    | text path =>
      have hnothing : Visit.Agrees ⟨record, disk, [], none⟩ ⟨[], record, none⟩ disk := ⟨rfl, fun _ => rfl⟩
      exact writePage_agrees hnothing rfl path top
    | _ => exact ⟨rfl, fun h => by cases h⟩
  · cases name with
    | text path =>
      obtain ⟨hsub, hlinks⟩ := visitFolders_agrees hinner base (.text path) folders record disk
      simp only
      cases hfailure : (visitFolders inner' base (.text path) folders record disk).1.failure? with
      | some failure =>
        have hfailed : ∀ {d : Draft}, d.publish disk =
            ((visitFolders inner' base (.text path) folders record disk).1.disk, .error failure.2) →
            (visitFolders inner' base (.text path) folders record disk).1.Agrees d disk := by
          intro d hrun
          refine ⟨?_, fun h => by cases hfailure.symm.trans h⟩
          rw [hrun, Visit.outcome, hfailure]
        rcases hsub.of_failure hfailure with herror | ⟨-, hfault⟩
        · cases (draftFolders inner base (.text path) folders record).1.fault? with
          | some fault => exact hsub
          | none =>
            refine hfailed (Draft.publish_of_error ?_)
            rw [publish_append, herror]
        · rw [hfault]
          exact hsub
      | none =>
        have hpage := writePage_agrees hsub hfailure path (top ++ "## Subdirectory Links:\n".toList ++
          (draftFolders inner base (.text path) folders record).2)
        rw [(hsub.of_ok hfailure).2] at hpage ⊢
        rw [hlinks hfailure]
        exact hpage
    | _ => exact ⟨rfl, fun h => by cases h⟩

end

/-- A visit does what its draft does, whatever the record. -/
private theorem visit_agrees (v base : Value) (disk : Disk) : (visit v base disk).Agrees (draft v base) disk := by
  cases v with
  | record fields =>
    rw [draft_record, visit]
    cases draftStart fields base with
    | error fault => exact ⟨rfl, fun h => by cases h⟩
    | ok start =>
      obtain ⟨name, heading, sources⟩ := start
      simp only
      cases renderSources (.record (Fields.put "_files" sources fields)) sources with
      | error fault => exact ⟨rfl, fun h => by cases h⟩
      | ok sections =>
        refine visitPage_agrees (fun n => ?_) base name (heading ++ sections) _ disk
        rw [get?_drafts, get?_visits]
        cases hv : Fields.get? n fields with
        | none => exact .inl ⟨rfl, rfl⟩
        | some v =>
          have hmem := Fields.mem_of_get? hv
          exact .inr ⟨_, _, rfl, rfl, fun base disk => visit_agrees v base disk⟩
  | _ =>
    refine ⟨?_, fun h => ?_⟩
    · simp [draft, visit, Draft.publish, publish, Visit.outcome]
    · simp [visit] at h
termination_by v
decreasing_by
  have hlt := List.sizeOf_lt_of_mem hmem
  simp only [Prod.mk.sizeOf_spec, Value.record.sizeOf_spec] at hlt ⊢
  omega

theorem publish_draft (v base : Value) (disk : Disk) :
    (draft v base).publish disk = ((visit v base disk).disk, (visit v base disk).outcome) :=
  (visit_agrees v base disk).run

end Docsmith.Docs
