import Docsmith.Proofs.FileTree.Path

/-!
# Paths that lead to folders

Any path may lead to a folder, with `.` and `..` in it, from the root or from the current folder (`Disk.Leads`).  From
there names are followed one by one (`Leads.join`, `Leads.foldl_join`), so what is read or written by such a path
followed by names comes down to what stands at a place: `Leads.node_join`, `Leads.write`.  A path still leads to its
folder after a change that takes no folder away (`Leads.mono`).  Conversely, where something can be written the path
leads to a folder (`leads_of_write`), and so does what comes before its names (`Leads.of_foldl_join`).
-/

namespace Docsmith

namespace Text

/-- The last piece comes after the last separator. -/
private theorem splitOn_concat {c : Char} {s : List Char} (hs : c ∉ s) (before : List Char) :
    splitOn [c] (before ++ c :: s) = splitOn [c] before ++ [s] := by
  have hlast : splitFrom [c] 0 [] s = [s] := by
    have hpieces : ∀ p ∈ [s], c ∉ p := fun p hp => List.mem_singleton.1 hp ▸ hs
    have := splitOn_intercalate hpieces
    rwa [List.intercalate_singleton] at this
  have hacc : ∀ acc, splitFrom [c] 0 acc (before ++ c :: s) = splitFrom [c] 0 acc before ++ [s] := by
    induction before with
    | nil => simp [splitFrom, hlast]
    | cons d before ih =>
      intro acc
      by_cases hd : c = d
      · subst hd
        simp [splitFrom, ih]
      · simp [splitFrom, hd, ih]
  exact hacc []

end Text

namespace Path

variable {path name : String}

/-- The parts of a path followed by a name: a path that ends with a slash has an empty last part, which the name
replaces. -/
private theorem parts_join (hne : path ≠ "") :
    ∃ stem, (parts path = stem ∨ parts path = stem ++ [""]) ∧
      ∀ name : String, '/' ∉ name.toList → parts (join path name) = stem ++ [name] := by
  by_cases hslash : path.toList.getLast? = some '/'
  · obtain ⟨before, hbefore⟩ := List.getLast?_eq_some_iff.1 hslash
    refine ⟨(Text.splitOn ['/'] before).map String.ofList, .inr ?_, ?_⟩
    · rw [parts, hbefore, Text.splitOn_concat List.not_mem_nil]
      simp
    · intro name hname
      rw [parts, join, if_neg hne, if_pos hslash, String.toList_append, hbefore, List.append_assoc,
        List.singleton_append, Text.splitOn_concat hname]
      simp
  · refine ⟨parts path, .inl rfl, ?_⟩
    intro name hname
    have hchars : (path ++ "/" ++ name).toList = path.toList ++ '/' :: name.toList := by simp
    rw [parts, join, if_neg hne, if_neg hslash, hchars, Text.splitOn_concat hname]
    simp [parts]

theorem join_ne_empty (hne : path ≠ "") (name : String) : join path name ≠ "" := by
  rw [join, if_neg hne]
  split <;> simp [hne]

private theorem isAbsolute_join (hne : path ≠ "") (name : String) : isAbsolute (join path name) = isAbsolute path := by
  obtain ⟨c, cs, hcs⟩ := List.exists_cons_of_ne_nil (mt String.toList_eq_nil_iff.1 hne)
  rw [isAbsolute, isAbsolute, join, if_neg hne]
  split <;> simp [hcs, List.isPrefixOf]

private theorem nul_not_mem_join (hpath : '\x00' ∉ path.toList) (hname : '\x00' ∉ name.toList) :
    '\x00' ∉ (join path name).toList := by
  rw [join]
  split
  next => exact hname
  next =>
    split <;> simp [hpath, hname]

end Path

namespace FileTree

variable {t u : FileTree} {place rest : List String}

theorem look_append (h : t.at? place = some u) (rest : List String) : t.look (place ++ rest) = u.look rest := by
  rw [look, at?_append, h, Option.bind_some, look]

/-- All on the way to a folder are folders. -/
private theorem look_of_look_append (h : t.look (place ++ rest) = some .folder) : t.look place = some .folder := by
  rw [look, at?_append] at h
  obtain ⟨_, hu, hkind⟩ := Option.map_eq_some_iff.1 h
  obtain ⟨u, hplace, hrest⟩ := Option.bind_eq_some_iff.1 hu
  have hlook : u.look rest = some .folder := by rw [look, hrest, Option.map_some, hkind]
  rw [look, hplace, Option.map_some, kind_of_look hlook]

/-- Putting something below a place changes the tree there alone. -/
theorem at?_put_append (h : t.at? place = some u) (rest : List String) (x : FileTree) :
    (t.put (place ++ rest) x).at? place = some (u.put rest x) := by
  induction place generalizing t with
  | nil =>
    cases h
    rfl
  | cons name place ih =>
    rw [at?] at h
    obtain ⟨sub, hsub, hat⟩ := Option.bind_eq_some_iff.1 h
    rw [List.cons_append, at?, child?_put, if_pos rfl, hsub, Option.getD_some]
    exact ih hat

end FileTree

namespace Disk

open FileTree

variable {disk disk' : Disk} {path name whole : String} {place place' : List String}

private theorem walk_append (path : String) (place xs ys : List String) :
    disk.walk path place (xs ++ ys) = disk.walk path place xs >>= fun place' => disk.walk path place' ys := by
  induction xs generalizing place with
  | nil => rfl
  | cons part xs ih =>
    rw [List.cons_append, walk, walk]
    cases disk.tree.at? place with
    | none => rfl
    | some t =>
      cases t with
      | file bytes => rfl
      | folder es =>
        simp only
        split
        next => exact ih place
        next =>
          split
          next => exact ih place.dropLast
          next =>
            split
            next => exact ih (place ++ [part])
            next => rfl

/-- One step of a reading that goes on: it stands on a folder. -/
private theorem walk_cons_ok {part : String} {parts : List String}
    (h : disk.walk path place (part :: parts) = .ok place') :
    ∃ es, disk.tree.at? place = some (.folder es) ∧
      ((part = "" ∨ part = ".") ∧ disk.walk path place parts = .ok place' ∨
        ¬ (part = "" ∨ part = ".") ∧ part = ".." ∧ disk.walk path place.dropLast parts = .ok place' ∨
        ¬ (part = "" ∨ part = ".") ∧ part ≠ ".." ∧ (Fields.get? part es).isSome ∧
          disk.walk path (place ++ [part]) parts = .ok place') := by
  rw [walk] at h
  cases hat : disk.tree.at? place with
  | none => simp [hat] at h
  | some t =>
    cases t with
    | file bytes => simp [hat] at h
    | folder es =>
      refine ⟨es, rfl, ?_⟩
      simp only [hat] at h
      split at h
      next hstay => exact .inl ⟨hstay, h⟩
      next hstay =>
        split at h
        next hup => exact .inr (.inl ⟨hstay, hup, h⟩)
        next hup =>
          split at h
          next hchild => exact .inr (.inr ⟨hstay, hup, hchild, h⟩)
          next => cases h

private theorem walk_cons_of_folder {part : String} {parts : List String} {es : Fields FileTree}
    (hat : disk.tree.at? place = some (.folder es)) :
    disk.walk path place (part :: parts) =
      if part = "" ∨ part = "." then disk.walk path place parts
      else if part = ".." then disk.walk path place.dropLast parts
      else if (es.get? part).isSome then disk.walk path (place ++ [part]) parts
      else .error (.notFound path) := by
  rw [walk, hat]
  rfl

/-- A reading that ends at a folder starts at one. -/
private theorem look_of_walk {parts : List String} (h : disk.walk path place parts = .ok place')
    (hfolder : disk.tree.look place' = some .folder) : disk.tree.look place = some .folder := by
  cases parts with
  | nil =>
    cases h
    exact hfolder
  | cons part parts =>
    obtain ⟨es, hes, -⟩ := walk_cons_ok h
    exact look_eq_folder.2 ⟨es, hes⟩

/-- A reading that ends at a folder goes the same way on every disk that has the folders of the first.  The path that
faults would name does not matter. -/
private theorem walk_mono {parts : List String}
    (hkept : ∀ q, disk.tree.look q = some .folder → disk'.tree.look q = some .folder)
    (h : disk.walk path place parts = .ok place') (hfolder : disk.tree.look place' = some .folder) :
    disk'.walk whole place parts = .ok place' := by
  induction parts generalizing place with
  | nil =>
    cases h
    rfl
  | cons part parts ih =>
    obtain ⟨es', hes'⟩ := look_eq_folder.1 (hkept place (look_of_walk h hfolder))
    obtain ⟨es, hes, hstep⟩ := walk_cons_ok h
    rw [walk_cons_of_folder hes']
    rcases hstep with ⟨hstay, hrest⟩ | ⟨hstay, hup, hrest⟩ | ⟨hstay, hup, hchild, hrest⟩
    · rw [if_pos hstay]
      exact ih hrest
    · rw [if_neg hstay, if_pos hup]
      exact ih hrest
    · -- the entry is a folder, since the reading goes on from it or ends there
      have hentry := hkept _ (look_of_walk hrest hfolder)
      obtain ⟨es₁, hes₁⟩ := look_eq_folder.1 hentry
      rw [at?_concat hes'] at hes₁
      rw [if_neg hstay, if_neg hup, hes₁, Option.isSome_some, if_pos rfl]
      exact ih hrest

/-- A path leads to a place: it is read up to there, and a folder stands there. -/
structure Leads (disk : Disk) (path : String) (place : List String) : Prop where
  ne : path ≠ ""
  nul : '\x00' ∉ path.toList
  walk : disk.walk path (disk.start path) (Path.parts path) = .ok place
  folder : disk.tree.look place = some .folder

theorem Leads.node (h : disk.Leads path place) {t : FileTree} :
    disk.node path = .ok t ↔ disk.tree.at? place = some t := by
  rw [node_eq_ok h.ne h.nul, h.walk]
  simp

theorem leads_of_node {es : Fields FileTree} (h : disk.node path = .ok (.folder es)) :
    ∃ place, disk.Leads path place ∧ disk.tree.at? place = some (.folder es) := by
  have hne : path ≠ "" := by
    rintro rfl
    cases h
  have hnul : '\x00' ∉ path.toList := by
    intro hmem
    rw [Disk.node, if_neg hne, if_pos (List.contains_iff_mem.2 hmem)] at h
    cases h
  obtain ⟨place, hwalk, hat⟩ := (node_eq_ok hne hnul).1 h
  exact ⟨place, ⟨hne, hnul, hwalk, look_eq_folder.2 ⟨es, hat⟩⟩, hat⟩

private theorem start_join (hne : path ≠ "") (name : String) : disk.start (Path.join path name) = disk.start path := by
  rw [start, start, Path.isAbsolute_join hne]

section

variable (h : disk.Leads path place)

include h

/-- The parts of the path followed by a name: those that lead to the place, and the name. -/
private theorem Leads.stem :
    ∃ stem, (∀ whole, disk.walk whole (disk.start path) stem = .ok place) ∧
      ∀ name : String, '/' ∉ name.toList → Path.parts (Path.join path name) = stem ++ [name] := by
  obtain ⟨stem, hparts, hjoin⟩ := Path.parts_join h.ne
  have hwalk : disk.walk path (disk.start path) stem = .ok place := by
    have hpath := h.walk
    rcases hparts with hparts | hparts
    · rwa [hparts] at hpath
    · -- the empty part at the end stays where it is
      rw [hparts, walk_append] at hpath
      obtain ⟨place', hstem, hlast⟩ := Outcome.bind_eq_ok.1 hpath
      obtain ⟨es, hes, -⟩ := walk_cons_ok hlast
      rw [walk_cons_of_folder hes, if_pos (.inl rfl)] at hlast
      cases hlast
      exact hstem
  exact ⟨stem, fun whole => walk_mono (fun _ hq => hq) hwalk h.folder, hjoin⟩

private theorem Leads.walk_join (hname : Path.IsName name) (whole : String) :
    disk.walk whole (disk.start (Path.join path name)) (Path.parts (Path.join path name)) =
      disk.walk whole place [name] := by
  obtain ⟨stem, hstem, hjoin⟩ := h.stem
  rw [start_join h.ne, hjoin name hname.2.2.2.1, walk_append, hstem whole]
  rfl

theorem Leads.node_join (hname : Path.IsName name) {t : FileTree} :
    disk.node (Path.join path name) = .ok t ↔ disk.tree.at? (place ++ [name]) = some t := by
  obtain ⟨es, hes⟩ := look_eq_folder.1 h.folder
  have hnames : ∀ n ∈ [name], Path.IsName n := fun n hn => List.mem_singleton.1 hn ▸ hname
  have hplace : (disk.tree.at? place).isSome := by rw [hes]; rfl
  rw [node_eq_ok (Path.join_ne_empty h.ne name) (Path.nul_not_mem_join h.nul hname.2.2.2.2), h.walk_join hname]
  constructor
  · rintro ⟨place', hwalk, hat⟩
    obtain ⟨rfl, -⟩ := (walk_names hnames hplace).1 hwalk
    exact hat
  · intro hat
    exact ⟨_, (walk_names hnames hplace).2 ⟨rfl, by rw [hat]; rfl⟩, hat⟩

/-- A path followed by the name of a folder. -/
theorem Leads.join (hname : Path.IsName name) (hfolder : disk.tree.look (place ++ [name]) = some .folder) :
    disk.Leads (Path.join path name) (place ++ [name]) := by
  obtain ⟨es, hes⟩ := look_eq_folder.1 hfolder
  obtain ⟨place', hleads, hat⟩ := leads_of_node ((h.node_join hname).2 hes)
  have hplace := hleads.walk
  rw [h.walk_join hname] at hplace
  have hnames : ∀ n ∈ [name], Path.IsName n := fun n hn => List.mem_singleton.1 hn ▸ hname
  obtain ⟨es₀, hes₀⟩ := look_eq_folder.1 h.folder
  obtain ⟨rfl, -⟩ := (walk_names hnames (by rw [hes₀]; rfl)).1 hplace
  exact hleads

/-- Writing by a path that leads to a folder fails only if there is a folder in the place of the file. -/
theorem Leads.write (hname : Path.IsName name) (bytes : List Nat) :
    disk.write path name bytes =
      if disk.tree.look (place ++ [name]) = some .folder then .error (.isDirectory (Path.join path name))
      else .ok { disk with tree := disk.tree.put (place ++ [name]) (.file bytes) } := by
  obtain ⟨es, hes⟩ := look_eq_folder.1 h.folder
  obtain ⟨stem, hstem, hjoin⟩ := h.stem
  have hnul : ¬ (Path.join path name).toList.contains '\x00' = true := by
    rw [List.contains_iff_mem]
    exact Path.nul_not_mem_join h.nul hname.2.2.2.2
  have hwalk : disk.walk (Path.join path name) (disk.start (Path.join path name))
      (Path.parts (Path.join path name)).dropLast = .ok place := by
    rw [start_join h.ne, hjoin name hname.2.2.2.1, List.dropLast_concat, hstem]
  rw [Disk.write, look, at?_concat hes]
  simp only [if_neg hnul, hwalk, bind, Except.bind, hes, child?, entries]
  cases Fields.get? name es with
  | none => simp
  | some u => cases u <;> simp [kind]

/-- A change that takes no folder away leaves the way to a folder. -/
theorem Leads.mono (hcurrent : disk'.current = disk.current)
    (hkept : ∀ q, disk.tree.look q = some .folder → disk'.tree.look q = some .folder) : disk'.Leads path place := by
  have hstart : disk'.start path = disk.start path := by rw [start, start, hcurrent]
  exact ⟨h.ne, h.nul, hstart ▸ walk_mono hkept h.walk h.folder, hkept place h.folder⟩

end

/-- A path followed by the names of folders, one in the other. -/
theorem Leads.foldl_join (h : disk.Leads path place) {rest : List String} (hrest : ∀ n ∈ rest, Path.IsName n)
    (hfolder : disk.tree.look (place ++ rest) = some .folder) :
    disk.Leads (rest.foldl Path.join path) (place ++ rest) := by
  induction rest generalizing path place with
  | nil => rwa [List.append_nil]
  | cons n rest ih =>
    obtain ⟨hn, hrest⟩ := List.forall_mem_cons.1 hrest
    rw [List.append_cons] at hfolder ⊢
    exact ih (h.join hn (look_of_look_append hfolder)) hrest hfolder

/-- Where the parts of a path before its last slash lead, the path leads too. -/
private theorem leads_of_stem {stem : List String} (hne : path ≠ "") (hnul : '\x00' ∉ path.toList)
    (hparts : Path.parts path = stem ∨ Path.parts path = stem ++ [""])
    (hwalk : disk.walk whole (disk.start path) stem = .ok place) (hfolder : disk.tree.look place = some .folder) :
    disk.Leads path place := by
  have hstem : disk.walk path (disk.start path) stem = .ok place := walk_mono (fun _ hq => hq) hwalk hfolder
  refine ⟨hne, hnul, ?_, hfolder⟩
  rcases hparts with hparts | hparts
  · rwa [hparts]
  · obtain ⟨es, hes⟩ := look_eq_folder.1 hfolder
    rw [hparts, walk_append, hstem]
    exact (walk_cons_of_folder hes).trans (if_pos (.inl rfl))

private theorem nul_not_mem_of_join (h : '\x00' ∉ (Path.join path name).toList) : '\x00' ∉ path.toList := by
  intro hmem
  rw [Path.join] at h
  split at h
  next hempty => simp [hempty] at hmem
  next =>
    split at h <;> simp [hmem] at h

/-- A path that can be followed by a name leads somewhere itself. -/
private theorem Leads.of_join (hne : path ≠ "") (hname : Path.IsName name)
    (h : disk.Leads (Path.join path name) place) :
    ∃ root, disk.Leads path root ∧ place = root ++ [name] := by
  obtain ⟨stem, hparts, hjoin⟩ := Path.parts_join hne
  have hwalk := h.walk
  rw [start_join hne, hjoin name hname.2.2.2.1, walk_append] at hwalk
  obtain ⟨root, hstem, hlast⟩ := Outcome.bind_eq_ok.1 hwalk
  obtain ⟨es, hes, hstep⟩ := walk_cons_ok hlast
  refine ⟨root, leads_of_stem hne (nul_not_mem_of_join h.nul) hparts hstem (look_eq_folder.2 ⟨es, hes⟩), ?_⟩
  rcases hstep with ⟨hstay, -⟩ | ⟨-, hup, -⟩ | ⟨-, -, -, hrest⟩
  · exact absurd hstay (by simp [hname.1, hname.2.1])
  · exact absurd hup hname.2.2.1
  · cases hrest
    rfl

theorem Leads.of_foldl_join {rest : List String} (hne : path ≠ "") (hrest : ∀ n ∈ rest, Path.IsName n)
    (h : disk.Leads (rest.foldl Path.join path) place) : ∃ root, disk.Leads path root ∧ place = root ++ rest := by
  induction rest generalizing path with
  | nil => exact ⟨place, h, (List.append_nil place).symm⟩
  | cons n rest ih =>
    obtain ⟨hn, hrest⟩ := List.forall_mem_cons.1 hrest
    obtain ⟨inner, hinner, rfl⟩ := ih (Path.join_ne_empty hne n) hrest h
    obtain ⟨root, hroot, rfl⟩ := hinner.of_join hne hn
    exact ⟨root, hroot, by rw [List.append_assoc, List.singleton_append]⟩

theorem Leads.unique (h : disk.Leads path place) (h' : disk.Leads path place') : place = place' :=
  Except.ok.inj (h.walk.symm.trans h'.walk)

/-- What can be written is written to a folder that the path leads to. -/
theorem leads_of_write {bytes : List Nat} (hne : path ≠ "") (hname : Path.IsName name)
    (h : disk.write path name bytes = .ok disk') : ∃ place, disk.Leads path place := by
  obtain ⟨stem, hparts, hjoin⟩ := Path.parts_join hne
  unfold Disk.write at h
  simp only at h
  split at h
  next => cases h
  next hnul =>
    obtain ⟨place, hwalk, h⟩ := Outcome.bind_eq_ok.1 h
    rw [start_join hne, hjoin name hname.2.2.2.1, List.dropLast_concat] at hwalk
    have hnul' : '\x00' ∉ path.toList := nul_not_mem_of_join (mt List.contains_iff_mem.2 hnul)
    cases hat : disk.tree.at? place with
    | none => simp [hat] at h
    | some t =>
      cases t with
      | file bytes => simp [hat] at h
      | folder es => exact ⟨place, leads_of_stem hne hnul' hparts hwalk (look_eq_folder.2 ⟨es, hat⟩)⟩

end Disk

end Docsmith
