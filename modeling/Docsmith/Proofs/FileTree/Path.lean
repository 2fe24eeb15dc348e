import Docsmith.FileTree.Disk
import Docsmith.Proofs.Change
import Docsmith.Proofs.FileTree.Place
import Docsmith.Proofs.Text.Pieces

/-!
# Paths to places

The path to a place is read back as that place (`walk_place`), so reading, writing and testing by a path come down to
what stands at a place: `node_ofPlace`, `write_ofPlace`, `isFile_name`.  A path from the root does not depend on the
current folder (`node_of_isAbsolute`).
-/

namespace Docsmith

namespace Path

variable {place : List String} {name : String}

private theorem toList_ofPlace (place : List String) :
    (ofPlace place).toList = '/' :: ['/'].intercalate (place.map String.toList) := by
  simp [ofPlace]

private theorem parts_ofPlace (hplace : ∀ n ∈ place, IsName n) (hne : place ≠ []) :
    parts (ofPlace place) = "" :: place := by
  obtain ⟨n, ns, rfl⟩ := List.exists_cons_of_ne_nil hne
  have hpieces : ∀ p ∈ [] :: (n :: ns).map String.toList, '/' ∉ p := by
    intro p hp
    rcases List.mem_cons.1 hp with rfl | hp
    · exact List.not_mem_nil
    · obtain ⟨m, hm, rfl⟩ := List.mem_map.1 hp
      exact (hplace m hm).2.2.2.1
  have hchars : '/' :: ['/'].intercalate ((n :: ns).map String.toList) =
      ['/'].intercalate ([] :: (n :: ns).map String.toList) := by
    rw [List.map_cons, List.intercalate_cons_cons]
    rfl
  have hback : ∀ ms : List String, (ms.map String.toList).map String.ofList = ms := by
    intro ms
    induction ms with
    | nil => rfl
    | cons m ms ih => simp [ih]
  rw [parts, toList_ofPlace, hchars, Text.splitOn_intercalate hpieces, List.map_cons, hback]

private theorem parts_name (hname : IsName name) : parts name = [name] := by
  have hpieces : ∀ p ∈ [name.toList], '/' ∉ p := fun p hp => by
    rw [List.mem_singleton.1 hp]
    exact hname.2.2.2.1
  have := Text.splitOn_intercalate hpieces
  rw [List.intercalate_singleton] at this
  simp [parts, this]

private theorem isAbsolute_ofPlace (place : List String) : isAbsolute (ofPlace place) = true := by
  simp [isAbsolute, toList_ofPlace]

private theorem isAbsolute_name (hname : IsName name) : isAbsolute name = false := by
  have hslash := hname.2.2.2.1
  unfold isAbsolute
  cases hchars : name.toList with
  | nil => rfl
  | cons c cs =>
    rw [hchars] at hslash
    have hc : ¬ '/' = c := fun h => hslash (h ▸ List.mem_cons_self)
    simp [List.isPrefixOf, hc]

private theorem ofPlace_ne_empty (place : List String) : ofPlace place ≠ "" := by
  intro h
  have := congrArg String.toList h
  rw [toList_ofPlace] at this
  cases this

private theorem nul_not_mem_ofPlace (hplace : ∀ n ∈ place, IsName n) : '\x00' ∉ (ofPlace place).toList := by
  rw [toList_ofPlace]
  induction place with
  | nil => decide
  | cons n ns ih =>
    have hn := (hplace n List.mem_cons_self).2.2.2.2
    have hns := ih fun m hm => hplace m (List.mem_cons_of_mem _ hm)
    cases ns with
    | nil => simpa using hn
    | cons m ms =>
      rw [List.map_cons, List.map_cons, List.intercalate_cons_cons]
      rw [List.map_cons] at hns
      have hrest := fun hmem => hns (List.mem_cons_of_mem _ hmem)
      simpa using ⟨hn, hrest⟩

private theorem intercalate_concat (sep : List Char) (s : List Char) {ss : List (List Char)} (hne : ss ≠ []) :
    sep.intercalate (ss ++ [s]) = sep.intercalate ss ++ sep ++ s := by
  induction ss with
  | nil => exact absurd rfl hne
  | cons p ss ih =>
    cases ss with
    | nil => simp [List.intercalate_cons_cons]
    | cons q ss =>
      have := ih (List.cons_ne_nil q ss)
      rw [List.cons_append, List.cons_append, List.intercalate_cons_cons, ← List.cons_append, this,
        List.intercalate_cons_cons]
      simp

/-- A name after the path to a place is the path to the place of that name. -/
private theorem join_ofPlace (hplace : ∀ n ∈ place, IsName n) (name : String) :
    join (ofPlace place) name = ofPlace (place ++ [name]) := by
  rw [join, if_neg (ofPlace_ne_empty place), ← String.toList_inj]
  rcases List.eq_nil_or_concat place with rfl | ⟨init, last, rfl⟩
  · simp [toList_ofPlace]
  · rw [List.concat_eq_append] at hplace ⊢
    have hlast : IsName last := hplace last (by simp)
    -- the path ends with the last name, and that has no slash
    have hend : (ofPlace (init ++ [last])).toList.getLast? ≠ some '/' := by
      intro h
      have hmem : '/' ∈ last.toList := by
        have hne : last.toList ≠ [] := fun h => hlast.1 (String.toList_eq_nil_iff.1 h)
        have hsplit : ∃ before, (ofPlace (init ++ [last])).toList = before ++ last.toList := by
          rw [toList_ofPlace, List.map_append, List.map_singleton]
          by_cases hinit : init = []
          · exact ⟨['/'], by simp [hinit]⟩
          · rw [intercalate_concat _ _ (by simpa using hinit), ← List.cons_append]
            exact ⟨_, rfl⟩
        obtain ⟨before, hbefore⟩ := hsplit
        rw [hbefore, List.getLast?_append, List.getLast?_eq_some_getLast hne, Option.some_or] at h
        exact Option.some.inj h ▸ List.getLast_mem hne
      exact hlast.2.2.2.1 hmem
    have hne : (init ++ [last]).map String.toList ≠ [] := by simp
    rw [if_neg hend, toList_ofPlace, List.map_append, List.map_singleton, intercalate_concat _ _ hne]
    simp [toList_ofPlace]

/-- The path to a place below another. -/
theorem foldl_join_ofPlace (hplace : ∀ n ∈ place, IsName n) {rest : List String} (hrest : ∀ n ∈ rest, IsName n) :
    rest.foldl join (ofPlace place) = ofPlace (place ++ rest) := by
  induction rest generalizing place with
  | nil => rw [List.append_nil]; rfl
  | cons n rest ih =>
    obtain ⟨hn, hrest⟩ := List.forall_mem_cons.1 hrest
    rw [List.foldl_cons, join_ofPlace hplace, ih _ hrest, List.append_assoc, List.singleton_append]
    intro m hm
    rcases List.mem_append.1 hm with hm | hm
    · exact hplace m hm
    · rwa [List.mem_singleton.1 hm]

theorem ofPlace_injective {place place' : List String} (hplace : ∀ n ∈ place, IsName n)
    (hplace' : ∀ n ∈ place', IsName n) (h : ofPlace place = ofPlace place') : place = place' := by
  have hnil : ∀ {ns : List String}, (∀ n ∈ ns, IsName n) → ofPlace ns = ofPlace [] → ns = [] := by
    intro ns hns h
    cases ns with
    | nil => rfl
    | cons n ns =>
      have hparts := congrArg parts h
      rw [parts_ofPlace hns (List.cons_ne_nil n ns)] at hparts
      have htail : n :: ns = [""] := (List.cons.inj (hparts.trans (by decide : parts (ofPlace []) = ["", ""]))).2
      exact absurd (List.cons.inj htail).1 (hns n List.mem_cons_self).1
  by_cases hne : place = []
  · subst hne
    exact (hnil hplace' h.symm).symm
  · by_cases hne' : place' = []
    · subst hne'
      exact hnil hplace h
    · have hparts := congrArg parts h
      rw [parts_ofPlace hplace hne, parts_ofPlace hplace' hne'] at hparts
      exact (List.cons.inj hparts).2

end Path

namespace Disk

open FileTree

variable {disk disk' : Disk} {place : List String} {name path : String}

/-- Names are followed one by one, as long as there is an entry for each. -/
theorem walk_names {names : List String} (hnames : ∀ n ∈ names, Path.IsName n) {place place' : List String}
    (hplace : (disk.tree.at? place).isSome) :
    disk.walk path place names = .ok place' ↔ place' = place ++ names ∧ (disk.tree.at? place').isSome := by
  induction names generalizing place with
  | nil =>
    rw [walk, List.append_nil]
    constructor
    · intro h
      cases h
      exact ⟨rfl, hplace⟩
    · rintro ⟨rfl, -⟩
      rfl
  | cons n ns ih =>
    obtain ⟨hn, hns⟩ := List.forall_mem_cons.1 hnames
    obtain ⟨t, ht⟩ := Option.isSome_iff_exists.1 hplace
    have hat : disk.tree.at? (place ++ [n]) = t.child? n := by
      rw [at?_append, ht]
      simp only [Option.bind_some, at?]
      cases t.child? n <;> rfl
    have happend : place ++ n :: ns = place ++ [n] ++ ns := by rw [List.append_assoc, List.singleton_append]
    have hlost : t.child? n = none → ∀ place', place' = place ++ n :: ns →
        ¬ (disk.tree.at? place').isSome := by
      rintro hnone _ rfl
      rw [happend, at?_append, hat, hnone]
      exact Bool.false_ne_true
    rw [walk, ht]
    cases t with
    | file bytes => exact iff_of_false (fun h => by cases h) fun h => hlost rfl _ h.1 h.2
    | folder es =>
      simp only [hn.1, hn.2.1, hn.2.2.1, or_self, if_false]
      split
      next hsome => rw [ih hns (by rwa [hat]), happend]
      next hnone =>
        have hnone' := Option.not_isSome_iff_eq_none.1 hnone
        exact iff_of_false (fun h => by cases h) fun h => hlost hnone' _ h.1 h.2

private theorem walk_stay (hroot : disk.tree.kind = .folder) (parts : List String) :
    disk.walk path [] ("" :: parts) = disk.walk path [] parts := by
  rw [walk, at?]
  cases htree : disk.tree with
  | file bytes =>
    rw [htree] at hroot
    cases hroot
  | folder es => simp

/-- The path to a place, as it is read from the root. -/
private theorem walk_place (hroot : disk.tree.kind = .folder) (hplace : ∀ n ∈ place, Path.IsName n)
    {place' : List String} :
    disk.walk path [] ("" :: place) = .ok place' ↔ place' = place ∧ (disk.tree.at? place').isSome := by
  rw [walk_stay hroot]
  exact walk_names hplace rfl

theorem node_eq_ok (hne : path ≠ "") (hnul : '\x00' ∉ path.toList) {t : FileTree} :
    disk.node path = .ok t ↔
      ∃ place, disk.walk path (disk.start path) (Path.parts path) = .ok place ∧ disk.tree.at? place = some t := by
  have hcontains : ¬ path.toList.contains '\x00' = true := by rwa [List.contains_iff_mem]
  rw [node, if_neg hne, if_neg hcontains, Outcome.bind_eq_ok]
  refine exists_congr fun place => and_congr_right fun _ => ?_
  cases disk.tree.at? place <;> simp

theorem node_ofPlace (hroot : disk.tree.kind = .folder) (hplace : ∀ n ∈ place, Path.IsName n) {t : FileTree} :
    disk.node (Path.ofPlace place) = .ok t ↔ disk.tree.at? place = some t := by
  have hwalk : ∀ {place'}, disk.walk (Path.ofPlace place) [] (Path.parts (Path.ofPlace place)) = .ok place' ↔
      place' = place ∧ (disk.tree.at? place').isSome := by
    intro place'
    by_cases hne : place = []
    · -- the path to the root has an empty part on either side of its slash
      have hparts : Path.parts (Path.ofPlace []) = "" :: "" :: [] := by decide
      subst hne
      rw [hparts, walk_stay hroot]
      exact walk_place hroot hplace
    · rw [Path.parts_ofPlace hplace hne]
      exact walk_place hroot hplace
  rw [node_eq_ok (Path.ofPlace_ne_empty place) (Path.nul_not_mem_ofPlace hplace), start, Path.isAbsolute_ofPlace,
    if_pos rfl]
  constructor
  · rintro ⟨place', hp, ht⟩
    obtain ⟨rfl, -⟩ := hwalk.1 hp
    exact ht
  · intro ht
    exact ⟨place, hwalk.2 ⟨rfl, by rw [ht]; rfl⟩, ht⟩

theorem write_ofPlace (hplace : ∀ n ∈ place, Path.IsName n) (hname : Path.IsName name)
    (hroot : disk.tree.kind = .folder) {bytes : List Nat} :
    disk.write (Path.ofPlace place) name bytes = .ok disk' ↔
      disk.tree.look place = some .folder ∧ disk.tree.look (place ++ [name]) ≠ some .folder ∧
        disk' = { disk with tree := disk.tree.put (place ++ [name]) (.file bytes) } := by
  have hnames : ∀ n ∈ place ++ [name], Path.IsName n := by
    intro n hn
    rcases List.mem_append.1 hn with hn | hn
    · exact hplace n hn
    · rwa [List.mem_singleton.1 hn]
  have hnul : ¬ (Path.ofPlace (place ++ [name])).toList.contains '\x00' = true := by
    rw [List.contains_iff_mem]
    exact Path.nul_not_mem_ofPlace hnames
  have hparts : (Path.parts (Path.ofPlace (place ++ [name]))).dropLast = "" :: place := by
    rw [Path.parts_ofPlace hnames (by simp), ← List.cons_append, List.dropLast_concat]
  rw [write, Path.join_ofPlace hplace]
  simp only [if_neg hnul, start, Path.isAbsolute_ofPlace, if_true, hparts]
  rw [Outcome.bind_eq_ok]
  constructor
  · rintro ⟨place', hp, hw⟩
    obtain ⟨rfl, -⟩ := (walk_place hroot hplace).1 hp
    cases hat : disk.tree.at? place' with
    | none => simp [hat] at hw
    | some t =>
      cases t with
      | file old => simp [hat] at hw
      | folder es =>
        simp only [hat, child?, entries] at hw
        rw [look, look, at?_concat hat, hat]
        split at hw
        next => cases hw
        next hfree =>
          cases hw
          refine ⟨rfl, ?_, rfl⟩
          intro hfolder
          obtain ⟨u, hu, hkind⟩ := Option.map_eq_some_iff.1 hfolder
          cases u with
          | file old => cases hkind
          | folder es' => exact hfree es' hu
  · rintro ⟨hfolder, hfree, rfl⟩
    obtain ⟨es, hes⟩ := look_eq_folder.1 hfolder
    refine ⟨place, (walk_place hroot hplace).2 ⟨rfl, by rw [hes]; rfl⟩, ?_⟩
    rw [look, at?_concat hes] at hfree
    rw [hes]
    simp only [child?, entries]
    split
    next es' hes' => exact absurd (by rw [hes']; rfl) hfree
    next => rfl

/-- A name is looked up in the current folder. -/
theorem isFile_name (hname : Path.IsName name) (hcurrent : disk.tree.look disk.current = some .folder) :
    disk.isFile name ↔ ∃ bytes, disk.tree.look (disk.current ++ [name]) = some (.file bytes) := by
  obtain ⟨es, hes⟩ := look_eq_folder.1 hcurrent
  have hstart : (disk.tree.at? disk.current).isSome := by rw [hes]; rfl
  have hnames : ∀ n ∈ [name], Path.IsName n := by
    intro n hn
    rwa [List.mem_singleton.1 hn]
  have hnode : ∀ t, disk.node name = .ok t ↔ disk.tree.at? (disk.current ++ [name]) = some t := by
    intro t
    rw [node_eq_ok hname.1 hname.2.2.2.2, start, Path.isAbsolute_name hname, Path.parts_name hname]
    constructor
    · rintro ⟨place', hp, ht⟩
      obtain ⟨rfl, -⟩ := (walk_names hnames hstart).1 hp
      exact ht
    · intro ht
      exact ⟨_, (walk_names hnames hstart).2 ⟨rfl, by rw [ht]; rfl⟩, ht⟩
  simp only [look_eq_file, ← hnode]
  unfold isFile
  cases disk.node name with
  | error e => simp
  | ok t => cases t <;> simp [FileTree.isFile]

/-- Whether a disk has a proper tree and a folder as its current one. -/
def isProper (disk : Disk) : Bool := disk.tree.isProper && decide (disk.tree.look disk.current = some .folder)

theorem isProper_iff : disk.isProper ↔ disk.tree.isProper ∧ disk.tree.look disk.current = some .folder := by
  simp [isProper]

/-- A path from the root leads to the same tree whatever the current folder is. -/
theorem node_of_isAbsolute (h : Path.isAbsolute path) (tree : FileTree) (current current' : List String) :
    node ⟨tree, current⟩ path = node ⟨tree, current'⟩ path := by
  have hwalk : ∀ parts place, walk ⟨tree, current⟩ path place parts = walk ⟨tree, current'⟩ path place parts := by
    intro parts
    induction parts with
    | nil => exact fun place => rfl
    | cons part parts ih =>
      intro place
      simp only [walk, ih]
  simp only [node, start, h, if_true, hwalk]

end Disk

end Docsmith
