import Docsmith.Docs.Page
import Docsmith.Proofs.Docs.Faithful

/-!
# The text of a page

The page of a folder has a heading, a section for each source and links to the pages of the folders in it: `pageText`.
The sections are read off the files of the folder and do not depend on where it lies (`renderSources_folder`); the
heading and the links are made of what is left of the folder's path, and of those of the folders in it, when another
path is taken away (`remainder`).
-/

namespace Docsmith.Docs

/-! ### Sections of sources -/

theorem FunctionDoc.ofValue_toValue (f : FunctionEntry) : FunctionDoc.ofValue f.toValue = .ok f.toDoc := by
  by_cases hdoc : f.docstring = []
  · simp [FunctionDoc.ofValue, FunctionEntry.toValue, FunctionEntry.toDoc, Value.field, Value.item, Value.lookup,
      Fields.get?, Value.getOr, Value.contains, Value.isKey, Fields.has, textValue, nonEmpty?, hdoc,
      Value.truthy, bind, Except.bind, pure, Except.pure]
  · simp [FunctionDoc.ofValue, FunctionEntry.toValue, FunctionEntry.toDoc, Value.field, Value.item, Value.lookup,
      Fields.get?, Value.getOr, Value.contains, Value.isKey, Fields.has, textValue, nonEmpty?, hdoc,
      Value.truthy, bind, Except.bind, pure, Except.pure, Value.textWith]

private theorem functionsOf_map_toValue (fs : List FunctionEntry) :
    functionsOf (.list (fs.map FunctionEntry.toValue)) = .ok (fs.map FunctionEntry.toDoc) :=
  Outcome.mapM_map_eq_ok fun f _ => FunctionDoc.ofValue_toValue f

/-- A docstring that may be missing or empty, as a value that counts as true or not. -/
private theorem optionalText_cases (d : Option (List Char)) :
    (d.bind nonEmpty? = none ∧ (optionalText d).truthy = false) ∨
      ∃ s, d.bind nonEmpty? = some s ∧ (optionalText d).truthy = true ∧ (optionalText d).display = s := by
  cases d with
  | none => exact .inl ⟨rfl, rfl⟩
  | some s =>
    by_cases hs : s = []
    · exact .inl ⟨by simp [nonEmpty?, hs], by simp [optionalText, textValue, Value.truthy, hs]⟩
    · exact .inr ⟨s, by simp [nonEmpty?, hs], by simp [optionalText, textValue, Value.truthy, hs],
        by simp [optionalText, textValue]⟩

private theorem ClassDoc.ofValue_toValue (c : ClassEntry) : ClassDoc.ofValue c.toValue = .ok c.toDoc := by
  have hfunctions := functionsOf_map_toValue c.functions
  rcases optionalText_cases c.docstring with ⟨hdoc, htruthy⟩ | ⟨s, hdoc, htruthy, hdisplay⟩
  · simp [ClassDoc.ofValue, ClassEntry.toValue, ClassEntry.toDoc, Value.field, Value.item, Value.lookup, Fields.get?,
      Value.getOr, Value.contains, Value.isKey, Fields.has, textValue, hdoc, htruthy, hfunctions,
      bind, Except.bind, pure, Except.pure]
  · simp [ClassDoc.ofValue, ClassEntry.toValue, ClassEntry.toDoc, Value.field, Value.item, Value.lookup, Fields.get?,
      Value.getOr, Value.contains, Value.isKey, Fields.has, textValue, hdoc, htruthy, hdisplay,
      hfunctions, bind, Except.bind, pure, Except.pure]

private theorem classesOf_map_toValue (cs : List ClassEntry) :
    classesOf (.list (cs.map ClassEntry.toValue)) = .ok (cs.map ClassEntry.toDoc) :=
  Outcome.mapM_map_eq_ok fun c _ => ClassDoc.ofValue_toValue c

/-- The docstring of a source as it stands on a page. -/
def docstringLines (d : Option (List Char)) : List Char :=
  match d.bind nonEmpty? with
  | some s => s ++ ['\n']
  | none => []

private theorem docstringLines_eq (d : Option (List Char)) :
    (if (optionalText d).truthy then (optionalText d).display ++ ['\n'] else []) = docstringLines d := by
  rcases optionalText_cases d with ⟨hnone, htruthy⟩ | ⟨s, hsome, htruthy, hdisplay⟩
  · rw [htruthy, docstringLines, hnone]
    rfl
  · rw [htruthy, hdisplay, docstringLines, hsome]
    rfl

/-- The section of a source. -/
def sourceSection (name : String) (m : ModuleEntry) : List Char :=
  "## File: `".toList ++ name.toList ++ "`\n".toList ++ docstringLines m.docstring ++
    (m.functions.map FunctionEntry.toDoc).flatMap FunctionDoc.render ++
    (m.classes.map ClassEntry.toDoc).flatMap ClassDoc.render

/-- The section of a source is made from its entry, wherever it lies. -/
private theorem renderSource_module {info : Value} {name path : String} {m : ModuleEntry}
    (h : info.item (.text name) = .ok (.record (m.toFields.put "name" (.text path)))) :
    renderSource info (.text name) = .ok (sourceSection name m) := by
  have hfield : ∀ name v, m.toFields.get? name = some v → name ≠ "name" →
      (Value.record (m.toFields.put "name" (.text path))).field name = .ok v := by
    intro name v hget hne
    rw [Value.field_record_eq_ok, Fields.get?_put_of_ne hne, hget]
  have hdoc := hfield "docstring" (optionalText m.docstring) rfl (by decide)
  have hfunctions := hfield "func_children" (.list (m.functions.map FunctionEntry.toValue)) rfl (by decide)
  have hclasses := hfield "class_children" (.list (m.classes.map ClassEntry.toValue)) rfl (by decide)
  delta sourceSection
  rw [← docstringLines_eq]
  unfold renderSource
  refine Outcome.bind_eq_ok.2 ⟨_, h, Outcome.bind_eq_ok.2 ⟨_, hdoc, Outcome.bind_eq_ok.2 ⟨_, hfunctions, ?_⟩⟩⟩
  refine Outcome.bind_eq_ok.2 ⟨_, functionsOf_map_toValue m.functions, Outcome.bind_eq_ok.2 ⟨_, hclasses, ?_⟩⟩
  exact Outcome.bind_eq_ok.2 ⟨_, classesOf_map_toValue m.classes, rfl⟩

/-- The entry of the source that a file holds, if it can be read. -/
def moduleOf? : FileTree → Option ModuleEntry
  | .file bytes => (readText bytes >>= ModuleEntry.ofSource).toOption
  | .folder _ => none

private theorem sourceRecord_ok {path : String} {t : FileTree} {v : Value} (h : sourceRecord path t = .ok v) :
    ∃ m, moduleOf? t = some m ∧ v = .record (m.toFields.put "name" (.text path)) := by
  obtain ⟨bytes, hbytes, hread⟩ := Outcome.bind_eq_ok.1 h
  obtain ⟨text, htext, hentry⟩ := Outcome.bind_eq_ok.1 hread
  obtain ⟨m, hm, hrecord⟩ := Outcome.bind_eq_ok.1 hentry
  cases t with
  | folder es => cases hbytes
  | file _ =>
    cases hbytes
    cases hrecord
    refine ⟨m, ?_, rfl⟩
    rw [moduleOf?, Outcome.bind_eq_ok.2 ⟨text, htext, hm⟩]
    rfl

/-- The sources of a folder in the order of its page. -/
def orderedSources (es : Fields FileTree) : List String :=
  if firstSource ∈ sourceNames es then firstSource :: (sourceNames es).erase firstSource else sourceNames es

private theorem mem_orderedSources {es : Fields FileTree} {name : String} (h : name ∈ orderedSources es) :
    name ∈ sourceNames es := by
  rw [orderedSources] at h
  split at h
  next hfirst =>
    rcases List.mem_cons.1 h with rfl | h
    · exact hfirst
    · exact List.mem_of_mem_erase h
  next => exact h

/-- The sections of the sources of a folder. -/
def sourcesText (es : Fields FileTree) : List Char :=
  (orderedSources es).flatMap fun name =>
    match (es.get? name).bind moduleOf? with
    | some m => sourceSection name m
    | none => []

private theorem same_text (s t : String) : (Value.text s).same (.text t) = (s == t) := by
  simp [Value.same]

/-- Names in the order of a page: that of the first source, if it is one of them, in front of the others. -/
def firstInFront (names : List String) : List String :=
  if firstSource ∈ names then firstSource :: names.erase firstSource else names

example : firstInFront ["A.py", "__init__.py", "b.py"] = ["__init__.py", "A.py", "b.py"] := by decide

theorem firstInFront_idem (names : List String) : firstInFront (firstInFront names) = firstInFront names := by
  by_cases hfirst : firstSource ∈ names
  · simp [firstInFront, hfirst]
  · simp [firstInFront, hfirst]

theorem orderSources_names (names : List String) :
    orderSources (.list (names.map .text)) = .ok (.list ((firstInFront names).map .text)) := by
  have hfind : ∀ names : List String, (names.map Value.text).find? (fun v => v.same (.text firstSource)) =
      if firstSource ∈ names then some (.text firstSource) else none := by
    intro names
    induction names with
    | nil => rfl
    | cons n names ih =>
      by_cases hn : n = firstSource
      · simp [hn, same_text]
      · have hn' : ¬ firstSource = n := fun h => hn h.symm
        simp [same_text, hn, hn', ih]
  have herase : ∀ names : List String, (names.map Value.text).eraseP (fun v => v.same (.text firstSource)) =
      (names.erase firstSource).map .text := by
    intro names
    induction names with
    | nil => rfl
    | cons n names ih =>
      by_cases hn : n = firstSource
      · simp [hn, same_text]
      · have hbeq : (n == firstSource) = false := beq_false_of_ne hn
        simp [same_text, hbeq, ih]
  rw [orderSources, moveToFront, hfind, firstInFront]
  by_cases hfirst : firstSource ∈ names
  · simp [hfirst, herase]
  · simp [hfirst]

theorem orderSources_texts (es : Fields FileTree) :
    orderSources (.list ((sourceNames es).map .text)) = .ok (.list ((orderedSources es).map .text)) :=
  orderSources_names (sourceNames es)

section

variable {isHidden : String → Bool} {path : String} {es : Fields FileTree} {fields : Fields Value}

/-- The sections of a page, from the files of the folder, if the record has those of its sources. -/
theorem renderSources_entries
    (h : ∀ n ∈ sourceNames es, ∃ t v, es.get? n = some t ∧ sourceRecord (Path.join path n) t = .ok v ∧
      fields.get? n = some v) (sources : Value) :
    renderSources (.record (fields.put "_files" sources)) (.list ((orderedSources es).map .text)) =
      .ok (sourcesText es) := by
  have hsection : ∀ n ∈ orderedSources es, renderSource (.record (fields.put "_files" sources)) (.text n) =
      .ok (match (es.get? n).bind moduleOf? with
        | some m => sourceSection n m
        | none => []) := by
    intro n hn
    have hmem := mem_orderedSources hn
    obtain ⟨t, v, ht, hv, hget⟩ := h n hmem
    obtain ⟨m, hm, rfl⟩ := sourceRecord_ok hv
    have hne : n ≠ "_files" := by
      rintro rfl
      exact absurd (isSourceName_of_mem hmem) (by decide)
    have hitem : (Value.record (fields.put "_files" sources)).item (.text n) =
        .ok (.record (m.toFields.put "name" (.text (Path.join path n)))) := by
      rw [Value.item, Value.lookup, Fields.get?_put_of_ne hne, hget]
    rw [ht, Option.bind_some, hm]
    exact renderSource_module hitem
  rw [renderSources, Value.elements]
  simp only [bind, Except.bind]
  rw [Outcome.mapM_map_eq_ok hsection]
  simp only [sourcesText, List.flatMap]

/-- The sections of a folder's page, from its files. -/
theorem renderSources_folder (h : folderRecord isHidden path (.folder es) = .ok (.record fields)) (sources : Value) :
    renderSources (.record (fields.put "_files" sources)) (.list ((orderedSources es).map .text)) =
      .ok (sourcesText es) :=
  renderSources_entries (sources_of_folderRecord h).2 sources

end

/-! ### Headings and links -/

/-- What is left of a path when all occurrences of another are taken away. -/
def remainder (base path : String) : List Char := Text.replaceAll base.toList [] path.toList

/-- The heading of the page of the folder at a path. -/
def headingText (base path : String) : List Char :=
  let title := (remainder base path).filter (· != '\\')
  "# Module: `".toList ++ (if title.isEmpty then "Base Directory".toList else title) ++ "`\n".toList

private theorem without_text (base path : String) : without (.text path) (.text base) = .ok (remainder base path) := rfl

theorem renderHeading_text (base path : String) :
    renderHeading (.text path) (.text base) = .ok (headingText base path) := by
  rw [renderHeading, without_text]
  rfl

/-- A link on a page: what is shown, and where it leads. -/
structure Link where
  label : List Char
  target : List Char
  deriving DecidableEq, Repr

/-- The link as a list item. -/
def Link.render (l : Link) : List Char := "- [".toList ++ l.label ++ "](".toList ++ l.target ++ ")\n".toList

/-- Where a link leads that goes along the given way to a folder. -/
def linkAlong (way : List Char) : List Char :=
  let link := (Path.join (String.ofList way) pageName).toList.map fun c => if c = '\\' then '/' else c
  if ['/'].isPrefixOf link then link.drop 1 else link

/-- Where the link from the page of the folder at `path` to that of the folder at `inner` leads. -/
def linkTarget (path inner : String) : List Char := linkAlong (remainder path inner)

/-- The link from the page of the folder at `path` to that of the folder at `inner`. -/
def linkTo (base path inner : String) : Link := ⟨remainder base inner, linkTarget path inner⟩

theorem label_linkTo (base path inner : String) : (linkTo base path inner).label = remainder base inner := by
  rw [linkTo]

theorem target_linkTo (base path inner : String) : (linkTo base path inner).target = linkTarget path inner := by
  rw [linkTo]

theorem renderLink_text (base path inner : String) :
    renderLink (.text base) (.text path) (.text inner) = .ok (linkTo base path inner).render := by
  unfold renderLink
  refine Outcome.bind_eq_ok.2 ⟨_, without_text path inner, Outcome.bind_eq_ok.2 ⟨_, without_text base inner, ?_⟩⟩
  delta Link.render linkTo linkTarget linkAlong
  dsimp only

/-- The links under their heading; without a link there is none. -/
def renderLinks (links : List Link) : List Char :=
  if links.isEmpty then [] else "## Subdirectory Links:\n".toList ++ links.flatMap Link.render

/-- The links from the page of a folder to those of the folders in it. -/
def linksOf (isHidden : String → Bool) (base path : String) (es : Fields FileTree) : List Link :=
  (folderNames isHidden es).map fun n => linkTo base path (Path.join path n)

/-- The text of the page of a folder. -/
def pageText (isHidden : String → Bool) (base path : String) (es : Fields FileTree) : List Char :=
  headingText base path ++ sourcesText es ++ renderLinks (linksOf isHidden base path es)

end Docsmith.Docs
