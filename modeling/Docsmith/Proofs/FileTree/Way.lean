import Docsmith.Proofs.FileTree.Route

/-!
# Paths as texts

The path of a place below a folder is the path of the folder followed by the way from it (`toList_foldl_join`).  The
way has the names on it and slashes between them, and of the folder's path it keeps only whether that ends with a slash
(`way_congr`).
-/

namespace Docsmith.Path

variable {path path' name : String} {names : List String}

/-- What stands between a path and a name that follows it. -/
def gap (path : String) : List Char := if path.toList.getLast? = some '/' then [] else ['/']

/-- What follows a path in the path of a place below it. -/
def way (path : String) : List String → List Char
  | [] => []
  | n :: names => gap path ++ n.toList ++ way (join path n) names

theorem gap_cases (path : String) : gap path = [] ∨ gap path = ['/'] := by
  rw [gap]
  split
  next => exact .inl rfl
  next => exact .inr rfl

theorem toList_join (hne : path ≠ "") (name : String) :
    (join path name).toList = path.toList ++ (gap path ++ name.toList) := by
  rw [join, gap, if_neg hne]
  split <;> simp

theorem toList_foldl_join (hne : path ≠ "") (names : List String) :
    (names.foldl join path).toList = path.toList ++ way path names := by
  induction names generalizing path with
  | nil => simp [way]
  | cons n names ih => simp [way, ih (join_ne_empty hne n), toList_join hne]

theorem way_singleton (path name : String) : way path [name] = gap path ++ name.toList := by
  rw [way, way, List.append_nil]

theorem way_append (path : String) (names names' : List String) :
    way path (names ++ names') = way path names ++ way (names.foldl join path) names' := by
  induction names generalizing path with
  | nil => rfl
  | cons n names ih => simp [way, ih]

theorem foldl_join_ne_empty (hne : path ≠ "") (names : List String) : names.foldl join path ≠ "" := by
  induction names generalizing path with
  | nil => exact hne
  | cons n names ih => exact ih (join_ne_empty hne n)

theorem gap_of_slash_not_mem {s : List Char} (hne : s ≠ []) (hs : '/' ∉ s) (before : List Char) :
    gap (String.ofList (before ++ s)) = ['/'] := by
  rw [gap, String.toList_ofList, List.getLast?_append, List.getLast?_eq_some_getLast hne, Option.some_or, if_neg]
  exact fun hlast => hs (Option.some.inj hlast ▸ List.getLast_mem hne)

theorem gap_join (hname : IsName name) (path : String) : gap (join path name) = ['/'] := by
  have hne : name.toList ≠ [] := mt String.toList_eq_nil_iff.1 hname.1
  have happend : ∃ before, join path name = String.ofList (before ++ name.toList) := by
    rw [join]
    split
    next => exact ⟨[], by simp⟩
    next =>
      split
      next => exact ⟨path.toList, by simp⟩
      next => exact ⟨path.toList ++ ['/'], by simp [String.append_assoc]⟩
  obtain ⟨before, hbefore⟩ := happend
  rw [hbefore, gap_of_slash_not_mem hne hname.2.2.2.1]

theorem gap_foldl_join (hgap : gap path = gap path') (hnames : ∀ n ∈ names, IsName n) :
    gap (names.foldl join path) = gap (names.foldl join path') := by
  induction names generalizing path path' with
  | nil => exact hgap
  | cons n names ih =>
    obtain ⟨hn, hnames⟩ := List.forall_mem_cons.1 hnames
    exact ih ((gap_join hn path).trans (gap_join hn path').symm) hnames

/-- Two paths that both end with a slash, or both do not, are followed by the same ways. -/
theorem way_congr (hgap : gap path = gap path') (hnames : ∀ n ∈ names, IsName n) :
    way path names = way path' names := by
  induction names generalizing path path' with
  | nil => rfl
  | cons n names ih =>
    obtain ⟨hn, hnames⟩ := List.forall_mem_cons.1 hnames
    rw [way, way, hgap, ih ((gap_join hn path).trans (gap_join hn path').symm) hnames]

/-! ### Slashes -/

private theorem length_splitOn (c : Char) (s : List Char) : (Text.splitOn [c] s).length = s.count c + 1 := by
  have hacc : ∀ acc, (Text.splitFrom [c] 0 acc s).length = s.count c + 1 := by
    induction s with
    | nil => simp [Text.splitFrom]
    | cons d s ih =>
      intro acc
      by_cases hd : c = d
      · subst hd
        simp [Text.splitFrom, ih]
      · have hd' : ¬ d = c := fun h => hd h.symm
        simp [Text.splitFrom, hd, hd', ih]
  exact hacc []

/-- A path from the root has a slash for each of its names. -/
theorem length_names_le_count (h : isAbsolute path) :
    ((parts path).filter (· ≠ "")).length ≤ path.toList.count '/' := by
  obtain ⟨rest, hrest⟩ := List.isPrefixOf_iff_prefix.1 h
  have hparts : parts path = "" :: (Text.splitOn ['/'] rest).map String.ofList := by
    rw [parts, ← hrest]
    simp [Text.splitOn, Text.splitFrom]
  have hlength := congrArg List.length hparts
  rw [parts, List.length_map, length_splitOn, List.length_cons] at hlength
  rw [hparts, List.filter_cons_of_neg (by simp)]
  exact Nat.le_trans (List.length_filter_le _ _) (Nat.le_of_eq (Nat.succ.inj hlength).symm)

theorem count_slash_le_foldl_join (hne : path ≠ "") (names : List String) :
    path.toList.count '/' ≤ (names.foldl join path).toList.count '/' := by
  rw [toList_foldl_join hne, List.count_append]
  exact Nat.le_add_right _ _

/-- A way has at most one slash for each of its names. -/
theorem count_slash_way (hnames : ∀ n ∈ names, IsName n) (path : String) :
    (way path names).count '/' ≤ names.length := by
  have hgap : ∀ path, (gap path).count '/' ≤ 1 := by
    intro path
    rcases gap_cases path with h | h <;> simp [h]
  induction names generalizing path with
  | nil => simp [way]
  | cons n names ih =>
    obtain ⟨hn, hnames⟩ := List.forall_mem_cons.1 hnames
    have hrest := ih hnames (join path n)
    have hfirst := hgap path
    rw [way, List.count_append, List.count_append, List.count_eq_zero_of_not_mem hn.2.2.2.1, List.length_cons]
    omega

end Docsmith.Path
