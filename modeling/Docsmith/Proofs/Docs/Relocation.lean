import Docsmith.Proofs.Docs.Links

/-!
# Copies of a folder at two paths

The heading and the links of a page are made by taking a path away from longer ones, wherever it occurs.  If it occurs
only at the start (`Clear`), what is left is the way from it, and that is the same below two paths that both end with a
slash or both do not; so the pages of two copies of a folder have the same texts (`pageText_of_clear`).  Where a path
occurs again, the label of a link comes out shorter than it should, and no other part of the page makes up for it
(`isClear_of_pageText_eq`).
-/

namespace Docsmith.Docs

/-! ### Paths that occur once -/

/-- The path that is taken away from the path of a place for the label of the link to it: that of the folder two levels
up, or that of the documented folder. -/
def upper (path : String) (place : List String) : String := (place.take (place.length - 2)).foldl Path.join path

/-- What the label of the link to a place should show. -/
def shown (path : String) (place : List String) : List Char :=
  Path.way (upper path place) (place.drop (place.length - 2))

/-- Whether the path that is taken away for a label does not occur in the label again. -/
def isClear (path : String) (place : List String) : Bool := !Text.occursIn (upper path place).toList (shown path place)

/-- No label below a path has in it the path that is taken away. -/
def Clear (isHidden : String → Bool) (path : String) (t : FileTree) : Prop :=
  ∀ place ∈ documented isHidden t, isClear path place

instance (isHidden : String → Bool) (path : String) (t : FileTree) : Decidable (Clear isHidden path t) :=
  inferInstanceAs (Decidable (∀ place ∈ documented isHidden t, isClear path place))

variable {path p q n : String} {place : List String} {isHidden : String → Bool} {t : FileTree} {es : Fields FileTree}

private theorem isClear_iff : isClear path place ↔ ¬ (upper path place).toList <:+: shown path place := by
  rw [isClear, Bool.not_eq_true', ← Text.occursIn_iff, Bool.not_eq_true]

private theorem upper_concat (path : String) (place : List String) (n : String) :
    upper path (place ++ [n]) = place.dropLast.foldl Path.join path := by
  rw [upper, List.length_append, List.length_singleton, List.dropLast_eq_take,
    List.take_append_of_le_length (by omega)]
  rfl

private theorem shown_concat (path : String) (place : List String) (n : String) :
    shown path (place ++ [n]) = Path.way (place.dropLast.foldl Path.join path) (place.drop (place.length - 1)) ++
      Path.way (place.foldl Path.join path) [n] := by
  have hdrop : (place ++ [n]).drop ((place ++ [n]).length - 2) = place.drop (place.length - 1) ++ [n] := by
    rw [List.length_append, List.length_singleton, List.drop_append_of_le_length (by omega)]
    rfl
  rw [shown, upper_concat, hdrop, Path.way_append, ← List.foldl_append, List.dropLast_eq_take, List.take_append_drop]

private theorem upper_ne_empty (hne : path ≠ "") (place : List String) : upper path place ≠ "" :=
  Path.foldl_join_ne_empty hne _

private theorem toList_foldl_join_upper (hne : path ≠ "") (place : List String) :
    (place.foldl Path.join path).toList = (upper path place).toList ++ shown path place := by
  rw [shown, ← Path.toList_foldl_join (upper_ne_empty hne place), upper, ← List.foldl_append, List.take_append_drop]

/-- Below a path with three slashes every label is clear: it has at most two. -/
private theorem clear_of_slashes (ht : t.isProper) (hslashes : 3 ≤ path.toList.count '/') : Clear isHidden path t := by
  intro place hplace
  have hne : path ≠ "" := by
    rintro rfl
    exact absurd hslashes (by decide)
  obtain ⟨es, hes⟩ := FileTree.look_eq_folder.1 (look_of_mem_documented hplace)
  have hnames := (FileTree.isProper.names_of_at? ht hes).2
  rw [isClear_iff]
  intro hoccurs
  have hcount := hoccurs.sublist.count_le '/'
  have hupper : path.toList.count '/' ≤ (upper path place).toList.count '/' := Path.count_slash_le_foldl_join hne _
  have hshown : (shown path place).count '/' ≤ (place.drop (place.length - 2)).length :=
    Path.count_slash_way (fun n hn => hnames n (List.mem_of_mem_drop hn)) _
  rw [List.length_drop] at hshown
  -- three slashes in the path, at most two in the label
  omega

/-! ### What is left of paths -/

/-- If the label is clear, so is what the target is made of: the path of a folder starts with that of the folder that
it is in. -/
private theorem not_infix_way_of_isClear (hne : path ≠ "") (h : isClear path (place ++ [n])) :
    ¬ (place.foldl Path.join path).toList <:+: Path.way (place.foldl Path.join path) [n] := by
  intro hoccurs
  rw [isClear_iff, upper_concat, shown_concat] at h
  have hstart : (place.dropLast.foldl Path.join path).toList <:+: (place.foldl Path.join path).toList := by
    have hsplit := congrArg (fun names => (names.foldl Path.join path).toList)
      (List.take_append_drop (place.length - 1) place)
    rw [← List.dropLast_eq_take, List.foldl_append,
      Path.toList_foldl_join (Path.foldl_join_ne_empty hne place.dropLast)] at hsplit
    exact ⟨[], _, hsplit⟩
  -- what the target is made of is the end of what the label shows
  exact h ((hstart.trans hoccurs).trans ⟨_, [], List.append_nil _⟩)

private theorem remainder_self (hne : path ≠ "") : remainder path path = [] := by
  have hnot : ¬ path.toList <:+: Path.way path [] := fun h => hne (String.toList_eq_nil_iff.1 (List.infix_nil.1 h))
  exact (remainder_foldl_join hne []).2 hnot

/-- The heading of a page whose label is clear. -/
private theorem remainder_of_isClear (hne : path ≠ "") (h : isClear path place) :
    remainder (place.dropLast.foldl Path.join path) (place.foldl Path.join path) =
      Path.way (place.dropLast.foldl Path.join path) (place.drop (place.length - 1)) := by
  obtain rfl | ⟨before, last, rfl⟩ := List.eq_nil_or_concat place
  · exact remainder_self hne
  · rw [List.concat_eq_append] at h ⊢
    rw [List.dropLast_concat, List.foldl_append, List.length_append, List.length_singleton, Nat.add_sub_cancel,
      List.drop_left]
    exact (remainder_foldl_join (Path.foldl_join_ne_empty hne before) [last]).2 (not_infix_way_of_isClear hne h)

private theorem remainder_upper (hne : path ≠ "") (place : List String) :
    remainder (upper path place) (place.foldl Path.join path) =
      Text.replaceAll (upper path place).toList [] (shown path place) := by
  rw [remainder, toList_foldl_join_upper hne,
    Text.replaceAll_self_append (mt String.toList_eq_nil_iff.1 (upper_ne_empty hne place)), List.nil_append]

private theorem foldl_join_concat (path : String) (place : List String) (n : String) :
    (place ++ [n]).foldl Path.join path = Path.join (place.foldl Path.join path) n := by
  rw [List.foldl_append, List.foldl_cons, List.foldl_nil]

private theorem label_sublist (hne : path ≠ "") (place : List String) (n : String) :
    (remainder (place.dropLast.foldl Path.join path) (Path.join (place.foldl Path.join path) n)).Sublist
      (shown path (place ++ [n])) := by
  rw [← upper_concat path place n, ← foldl_join_concat, remainder_upper hne]
  exact Text.removed_sublist _ _

private theorem label_of_isClear (hne : path ≠ "") (h : isClear path (place ++ [n])) :
    remainder (place.dropLast.foldl Path.join path) (Path.join (place.foldl Path.join path) n) =
      shown path (place ++ [n]) := by
  rw [← upper_concat path place n, ← foldl_join_concat, remainder_upper hne]
  exact Text.replaceAll_of_not_infix (isClear_iff.1 h) _

private theorem length_label_lt (hne : path ≠ "") (h : ¬ isClear path (place ++ [n])) :
    (remainder (place.dropLast.foldl Path.join path) (Path.join (place.foldl Path.join path) n)).length <
      (shown path (place ++ [n])).length := by
  rw [← upper_concat path place n, ← foldl_join_concat, remainder_upper hne]
  rw [isClear_iff, Decidable.not_not] at h
  exact Text.length_removed_lt (mt String.toList_eq_nil_iff.1 (upper_ne_empty hne _)) h

private theorem way_sublist (hne : path ≠ "") (n : String) :
    (remainder path (Path.join path n)).Sublist (Path.way path [n]) := by
  have hchars : path.toList ≠ [] := mt String.toList_eq_nil_iff.1 hne
  rw [remainder, Path.toList_join hne, Text.replaceAll_self_append hchars, List.nil_append, ← Path.way_singleton]
  exact Text.removed_sublist _ _

private theorem way_of_isClear (hne : path ≠ "") (h : isClear path (place ++ [n])) :
    remainder (place.foldl Path.join path) (Path.join (place.foldl Path.join path) n) =
      Path.way (place.foldl Path.join path) [n] :=
  (remainder_foldl_join (Path.foldl_join_ne_empty hne place) [n]).2 (not_infix_way_of_isClear hne h)

private theorem shown_congr (hgap : Path.gap p = Path.gap q) (hplace : ∀ m ∈ place, Path.IsName m) :
    shown p place = shown q place :=
  Path.way_congr (Path.gap_foldl_join hgap fun m hm => hplace m (List.mem_of_mem_take hm))
    fun m hm => hplace m (List.mem_of_mem_drop hm)

/-! ### Lengths -/

private theorem length_linkAlong_le_add (way : List Char) :
    (linkAlong way).length ≤ way.length + 1 + pageName.toList.length := by
  have hjoin : (Path.join (String.ofList way) pageName).toList.length ≤ way.length + 1 + pageName.toList.length := by
    by_cases hway : String.ofList way = ""
    · have hpage : Path.join (String.ofList way) pageName = pageName := by rw [Path.join, if_pos hway]
      rw [hpage]
      omega
    · have hgap : (Path.gap (String.ofList way)).length ≤ 1 := by
        rcases Path.gap_cases (String.ofList way) with h | h <;> simp [h]
      rw [Path.toList_join hway, List.length_append, List.length_append, String.toList_ofList]
      omega
  rw [linkAlong]
  split
  next => rw [List.length_drop, List.length_map]; omega
  next => rwa [List.length_map]

private theorem le_length_linkAlong (hn : Path.IsName n) (path : String) :
    (Path.way path [n]).length + pageName.toList.length ≤ (linkAlong (Path.way path [n])).length := by
  have hjoin := congrArg List.length (toList_join_way hn path)
  rw [List.length_append, List.length_cons] at hjoin
  rw [linkAlong]
  split
  next => rw [List.length_drop, List.length_map]; omega
  next => rw [List.length_map]; omega

/-- A link along a part of the way is not longer than the link along the way. -/
private theorem length_linkAlong_le (hn : Path.IsName n) {rest : List Char} (h : rest.Sublist (Path.way path [n])) :
    (linkAlong rest).length ≤ (linkAlong (Path.way path [n])).length := by
  rcases Nat.lt_or_ge rest.length (Path.way path [n]).length with hlt | hge
  · -- a link may lose a slash at its start, and gain one before the page's name
    have hupper := length_linkAlong_le_add rest
    have hlower := le_length_linkAlong hn path
    omega
  · exact Nat.le_of_eq (congrArg (fun way => (linkAlong way).length) (h.eq_of_length_le hge))

private theorem Link.length_render (l : Link) : l.render.length = l.label.length + l.target.length + 7 := by
  delta Link.render
  simp only [List.length_append]
  have h₁ : "- [".toList.length = 3 := by decide
  have h₂ : "](".toList.length = 2 := by decide
  have h₃ : ")\n".toList.length = 2 := by decide
  omega

section

variable {names : List String} {f g : String → Link}

private theorem length_links_le (hle : ∀ m ∈ names, (f m).render.length ≤ (g m).render.length) :
    (names.flatMap fun m => (f m).render).length ≤ (names.flatMap fun m => (g m).render).length := by
  induction names with
  | nil => exact Nat.le_refl _
  | cons m names ih =>
    obtain ⟨hm, hle⟩ := List.forall_mem_cons.1 hle
    rw [List.flatMap_cons, List.flatMap_cons, List.length_append, List.length_append]
    exact Nat.add_le_add hm (ih hle)

private theorem length_links_lt (hle : ∀ m ∈ names, (f m).render.length ≤ (g m).render.length) (hn : n ∈ names)
    (hlt : (f n).render.length < (g n).render.length) :
    (names.flatMap fun m => (f m).render).length < (names.flatMap fun m => (g m).render).length := by
  induction names with
  | nil => cases hn
  | cons m names ih =>
    obtain ⟨hm, hrest⟩ := List.forall_mem_cons.1 hle
    rw [List.flatMap_cons, List.flatMap_cons, List.length_append, List.length_append]
    rcases List.mem_cons.1 hn with rfl | hn
    · exact Nat.add_lt_add_of_lt_of_le hlt (length_links_le hrest)
    · exact Nat.add_lt_add_of_le_of_lt hm (ih hrest hn)

end

/-! ### Texts of pages -/

private theorem headingText_congr {base base' path' : String} (h : remainder base path = remainder base' path') :
    headingText base path = headingText base' path' := by
  delta headingText
  rw [h]

/-- Two pages with the same heading differ if no link on the first is longer than on the second, and one is shorter. -/
private theorem pageText_ne {base base' path' : String} (hheading : remainder base path = remainder base' path')
    (hle : ∀ m ∈ folderNames isHidden es,
      (remainder base (Path.join path m)).length ≤ (remainder base' (Path.join path' m)).length ∧
      (linkTarget path (Path.join path m)).length ≤ (linkTarget path' (Path.join path' m)).length)
    (hn : n ∈ folderNames isHidden es)
    (hlt : (remainder base (Path.join path n)).length < (remainder base' (Path.join path' n)).length) :
    pageText isHidden base path es ≠ pageText isHidden base' path' es := by
  have hrender : ∀ m ∈ folderNames isHidden es, (linkTo base path (Path.join path m)).render.length ≤
      (linkTo base' path' (Path.join path' m)).render.length := by
    intro m hm
    have := hle m hm
    rw [Link.length_render, Link.length_render, label_linkTo, label_linkTo, target_linkTo, target_linkTo]
    omega
  have hshorter : (linkTo base path (Path.join path n)).render.length <
      (linkTo base' path' (Path.join path' n)).render.length := by
    have := (hle n hn).2
    rw [Link.length_render, Link.length_render, label_linkTo, label_linkTo, target_linkTo, target_linkTo]
    omega
  have hlength := length_links_lt hrender hn hshorter
  have hempty : (folderNames isHidden es).isEmpty = false := by
    rw [List.isEmpty_eq_false_iff]
    exact List.ne_nil_of_mem hn
  intro heq
  rw [pageText, pageText, headingText_congr hheading] at heq
  have hlinks := List.append_cancel_left heq
  rw [renderLinks, renderLinks, isEmpty_linksOf, isEmpty_linksOf, hempty, linksOf, linksOf, List.flatMap_map,
    List.flatMap_map] at hlinks
  have hlists := List.append_cancel_left hlinks
  rw [hlists] at hlength
  exact Nat.lt_irrefl _ hlength

section

variable (hp : p ≠ "") (hq : q ≠ "")

include hp hq

private theorem heading_congr (hgap : Path.gap p = Path.gap q) (hplace : ∀ m ∈ place, Path.IsName m)
    (hclear : isClear p place) (hclear' : isClear q place) :
    remainder (place.dropLast.foldl Path.join p) (place.foldl Path.join p) =
      remainder (place.dropLast.foldl Path.join q) (place.foldl Path.join q) := by
  have hbefore : ∀ m ∈ place.dropLast, Path.IsName m := fun m hm => hplace m ((List.dropLast_sublist place).subset hm)
  rw [remainder_of_isClear hp hclear, remainder_of_isClear hq hclear']
  exact Path.way_congr (Path.gap_foldl_join hgap hbefore) fun m hm => hplace m (List.mem_of_mem_drop hm)

/-- The texts of the pages of two copies of a folder are the same if all labels are clear. -/
private theorem pageText_of_clear (hgap : Path.gap p = Path.gap q) (hplace : ∀ m ∈ place, Path.IsName m)
    (hnames : ∀ m ∈ folderNames isHidden es, Path.IsName m) (hclear : isClear p place) (hclear' : isClear q place)
    (hinner : ∀ m ∈ folderNames isHidden es, isClear p (place ++ [m]) ∧ isClear q (place ++ [m])) :
    pageText isHidden (place.dropLast.foldl Path.join p) (place.foldl Path.join p) es =
      pageText isHidden (place.dropLast.foldl Path.join q) (place.foldl Path.join q) es := by
  have hlinks : linksOf isHidden (place.dropLast.foldl Path.join p) (place.foldl Path.join p) es =
      linksOf isHidden (place.dropLast.foldl Path.join q) (place.foldl Path.join q) es := by
    refine List.map_congr_left fun m hm => ?_
    obtain ⟨hm', hm''⟩ := hinner m hm
    have hone : ∀ k ∈ [m], Path.IsName k := fun k hk => List.mem_singleton.1 hk ▸ hnames m hm
    rw [linkTo, linkTo, linkTarget, linkTarget, label_of_isClear hp hm', label_of_isClear hq hm'',
      way_of_isClear hp hm', way_of_isClear hq hm'', shown_congr hgap (List.forall_mem_append.2 ⟨hplace, hone⟩),
      Path.way_congr (Path.gap_foldl_join hgap hplace) hone]
  rw [pageText, pageText, headingText_congr (heading_congr hp hq hgap hplace hclear hclear'), hlinks]

/-- A link is not longer than that of a copy where the label is clear, if what it should be is not. -/
private theorem length_link_le (hn : Path.IsName n) (hclear' : isClear q (place ++ [n]))
    (hshown : (shown p (place ++ [n])).length ≤ (shown q (place ++ [n])).length)
    (hway : (Path.way (place.foldl Path.join p) [n]).Sublist (Path.way (place.foldl Path.join q) [n])) :
    (remainder (place.dropLast.foldl Path.join p) (Path.join (place.foldl Path.join p) n)).length ≤
        (remainder (place.dropLast.foldl Path.join q) (Path.join (place.foldl Path.join q) n)).length ∧
      (linkTarget (place.foldl Path.join p) (Path.join (place.foldl Path.join p) n)).length ≤
        (linkTarget (place.foldl Path.join q) (Path.join (place.foldl Path.join q) n)).length := by
  rw [label_of_isClear hq hclear', linkTarget, linkTarget, way_of_isClear hq hclear']
  exact ⟨Nat.le_trans (label_sublist hp place n).length_le hshown,
    length_linkAlong_le hn ((way_sublist (Path.foldl_join_ne_empty hp place) n).trans hway)⟩

/-- A label that is not clear makes the page differ from that of a copy where all are. -/
private theorem isClear_of_pageText_eq (hgap : Path.gap p = Path.gap q) (hplace : ∀ m ∈ place, Path.IsName m)
    (hnames : ∀ m ∈ folderNames isHidden es, Path.IsName m) (hclear : isClear p place) (hclear' : isClear q place)
    (hinner : ∀ m ∈ folderNames isHidden es, isClear q (place ++ [m]))
    (h : pageText isHidden (place.dropLast.foldl Path.join p) (place.foldl Path.join p) es =
      pageText isHidden (place.dropLast.foldl Path.join q) (place.foldl Path.join q) es)
    (hn : n ∈ folderNames isHidden es) : isClear p (place ++ [n]) := by
  have hone : ∀ m ∈ folderNames isHidden es, ∀ k ∈ [m], Path.IsName k :=
    fun m hm k hk => List.mem_singleton.1 hk ▸ hnames m hm
  have hshown : ∀ m ∈ folderNames isHidden es, shown p (place ++ [m]) = shown q (place ++ [m]) :=
    fun m hm => shown_congr hgap (List.forall_mem_append.2 ⟨hplace, hone m hm⟩)
  -- the copy shows all labels as they should be, so none is longer here and the one that is not clear is shorter
  refine Decidable.not_not.1 fun hnot => ?_
  refine pageText_ne (heading_congr hp hq hgap hplace hclear hclear') (fun m hm => ?_) hn ?_ h
  · refine length_link_le hp hq (hnames m hm) (hinner m hm) (Nat.le_of_eq (congrArg List.length (hshown m hm))) ?_
    exact Path.way_congr (Path.gap_foldl_join hgap hplace) (hone m hm) ▸ List.Sublist.refl _
  · rw [label_of_isClear hq (hinner n hn), ← hshown n hn]
    exact length_label_lt hp hnot

/-- A path that ends with a slash and one that does not give different labels, whatever is in the folder. -/
private theorem pageText_ne_of_gap (hpgap : Path.gap p = []) (hqgap : Path.gap q = ['/'])
    (hnames : ∀ m ∈ folderNames isHidden es, Path.IsName m)
    (hinner : ∀ m ∈ folderNames isHidden es, isClear q [m]) (hn : n ∈ folderNames isHidden es) :
    pageText isHidden p p es ≠ pageText isHidden q q es := by
  have hway : ∀ m, Path.way q [m] = '/' :: Path.way p [m] := by
    intro m
    rw [Path.way_singleton, Path.way_singleton, hpgap, hqgap]
    rfl
  have hlabel : ∀ m, (shown p [m]).length < (shown q [m]).length := by
    intro m
    have hlength := congrArg List.length (hway m)
    rw [List.length_cons] at hlength
    exact Nat.lt_of_lt_of_eq (Nat.lt_succ_self _) hlength.symm
  refine pageText_ne (by rw [remainder_self hp, remainder_self hq]) (fun m hm => ?_) hn ?_
  · refine @length_link_le p q m [] hp hq (hnames m hm) (hinner m hm) (Nat.le_of_lt (hlabel m)) ?_
    exact (hway m).symm ▸ List.sublist_cons_self _ _
  · have hq' : remainder q (Path.join q n) = shown q [n] := @label_of_isClear q n [] hq (hinner n hn)
    rw [hq']
    exact Nat.lt_of_le_of_lt (label_sublist hp [] n).length_le (hlabel n)

end

/-! ### Runs over copies -/

/-- A documented folder other than the first is in a documented folder. -/
private theorem documented_concat (h : place ++ [n] ∈ documented isHidden t) :
    place ∈ documented isHidden t ∧ ∃ es, t.at? place = some (.folder es) ∧ n ∈ folderNames isHidden es := by
  induction t using FileTree.induction generalizing place with
  | file bytes =>
    rw [documented] at h
    cases h
  | folder es ih =>
    rcases mem_documented.1 h with hnil | ⟨name, t, rest, ht, hname, hrest, heq⟩
    · exact absurd hnil (by simp)
    · cases place with
      | nil =>
        cases heq
        exact ⟨mem_documented.2 (.inl rfl), es, rfl, mem_folderNames.2 ⟨⟨t, ht⟩, hname⟩⟩
      | cons m place =>
        cases heq
        obtain ⟨hplace, es', hes', hn⟩ := ih name t ht hrest
        refine ⟨mem_documented.2 (.inr ⟨name, t, place, ht, hname, hplace, rfl⟩), es', ?_, hn⟩
        rw [FileTree.at?, FileTree.child?, FileTree.entries, ht]
        exact hes'

/-- What a run documents at a place: a folder whose path can be named, with the labels of the folders in it among those
that are to be clear. -/
private theorem page_of_documented {v : Value} (ht : t.isProper) (hrecord : folderRecord isHidden path t = .ok v)
    (hplace : place ∈ documented isHidden t) :
    ∃ es, t.at? place = some (.folder es) ∧ (∀ m ∈ place, Path.IsName m) ∧
      ∀ m ∈ folderNames isHidden es, Path.IsName m ∧ place ++ [m] ∈ documented isHidden t := by
  obtain ⟨es, hes⟩ := FileTree.look_eq_folder.1 (look_of_mem_documented hplace)
  obtain ⟨hfolder, hnames⟩ := FileTree.isProper.names_of_at? ht hes
  refine ⟨es, hes, hnames, fun m hm => ?_⟩
  obtain ⟨⟨u, hu⟩, hname⟩ := mem_folderNames.1 hm
  exact ⟨((FileTree.isProper_folder hfolder).2 m u hu).1,
    documented_entry hrecord hplace ((FileTree.at?_concat hes m).trans hu) hname⟩

section

variable {v w : Value} (hp : p ≠ "") (hq : q ≠ "") (ht : t.isProper) (hrecord : folderRecord isHidden p t = .ok v)
  (hclear : Clear isHidden q t)

include hp hq ht hrecord hclear

private theorem text_of_clear (hgap : Path.gap p = Path.gap q) (hclear' : Clear isHidden p t)
    (hplace : place ∈ documented isHidden t) :
    (pageAt isHidden p p t place).text = (pageAt isHidden q q t place).text := by
  obtain ⟨es, hes, hnames, hinner⟩ := page_of_documented ht hrecord hplace
  rw [pageAt_self hes, pageAt_self hes]
  exact pageText_of_clear hp hq hgap hnames (fun m hm => (hinner m hm).1) (hclear' place hplace) (hclear place hplace)
    fun m hm => ⟨hclear' _ (hinner m hm).2, hclear _ (hinner m hm).2⟩

/-- If all pages are those of a copy where every label is clear, every label is clear.  By induction on the depth of
the folder: the heading of the page that a link stands on is right if the label of the link to it is clear. -/
private theorem clear_of_texts (hgap : Path.gap p = Path.gap q)
    (h : ∀ place ∈ documented isHidden t, (pageAt isHidden p p t place).text = (pageAt isHidden q q t place).text) :
    Clear isHidden p t := by
  intro place hplace
  induction hlength : place.length generalizing place with
  | zero =>
    rw [List.length_eq_zero_iff.1 hlength, isClear_iff]
    exact fun hoccurs => hp (String.toList_eq_nil_iff.1 (List.infix_nil.1 hoccurs))
  | succ k ih =>
    obtain rfl | ⟨before, last, rfl⟩ := List.eq_nil_or_concat place
    · cases hlength
    · rw [List.concat_eq_append] at hplace hlength ⊢
      rw [List.length_append, List.length_singleton] at hlength
      -- the link stands on the page of the folder before, whose own label is clear by induction
      obtain ⟨hbefore, es, hes, hlast⟩ := documented_concat hplace
      obtain ⟨es', hes', hnames, hinner⟩ := page_of_documented ht hrecord hbefore
      cases hes.symm.trans hes'
      have htext := h before hbefore
      rw [pageAt_self hes, pageAt_self hes] at htext
      exact isClear_of_pageText_eq hp hq hgap hnames (fun m hm => (hinner m hm).1) (ih before hbefore (by omega))
        (hclear before hbefore) (fun m hm => hclear _ (hinner m hm).2) htext hlast

/-- Of two paths one ends with a slash: then the pages are the same only if there is just one. -/
private theorem texts_eq_iff_of_gap (hgap : Path.gap p ≠ Path.gap q) (hclear' : Clear isHidden p t) :
    (∀ place ∈ documented isHidden t, (pageAt isHidden p p t place).text = (pageAt isHidden q q t place).text) ↔
      documented isHidden t = [[]] := by
  obtain ⟨es, _, rfl, -, -⟩ := folderRecord_ok hrecord
  have hroot : [] ∈ documented isHidden (.folder es) := mem_documented.2 (.inl rfl)
  obtain ⟨es', hes, -, hinner⟩ := page_of_documented ht hrecord hroot
  cases hes
  have hsingle : documented isHidden (.folder es) = [[]] ↔ folderNames isHidden es = [] := by
    constructor
    · intro hone
      refine List.eq_nil_iff_forall_not_mem.2 fun m hm => ?_
      have hmem := (hinner m hm).2
      rw [hone, List.nil_append, List.mem_singleton] at hmem
      cases hmem
    · intro hnone
      rw [documented, hnone]
      rfl
  have hnames : ∀ m ∈ folderNames isHidden es, Path.IsName m := fun m hm => (hinner m hm).1
  rw [hsingle]
  constructor
  · intro h
    have htext : pageText isHidden p p es = pageText isHidden q q es := h [] hroot
    refine List.eq_nil_iff_forall_not_mem.2 fun n hn => ?_
    rcases Path.gap_cases p with hpgap | hpgap <;> rcases Path.gap_cases q with hqgap | hqgap
    · exact hgap (hpgap.trans hqgap.symm)
    · exact pageText_ne_of_gap hp hq hpgap hqgap hnames (fun m hm => hclear _ (hinner m hm).2) hn htext
    · exact pageText_ne_of_gap hq hp hqgap hpgap hnames (fun m hm => hclear' _ (hinner m hm).2) hn htext.symm
    · exact hgap (hpgap.trans hqgap.symm)
  · intro hnone place hplace
    rw [hsingle.2 hnone, List.mem_singleton] at hplace
    subst hplace
    have hlinks : ∀ path, linksOf isHidden path path es = [] := fun path => by rw [linksOf, hnone, List.map_nil]
    rw [pageAt, pageAt]
    simp only [FileTree.entries]
    rw [pageText, pageText, hlinks, hlinks, headingText_congr ((remainder_self hp).trans (remainder_self hq).symm)]

end

private theorem map_text_pages {v : Value} (hrecord : folderRecord isHidden path t = .ok v) :
    (draft v (.text path)).pages.map Page.text =
      (course isHidden t).places.map fun place => (pageAt isHidden path path t place).text := by
  rw [pages_of_draft hrecord, List.map_map]
  rfl

/-- Pages of copies.  Let one folder stand at two paths, listed in the same order at every level, and let every label
below the second be clear.  If both paths end with a slash or both do not, and every label below the first is clear
too, the runs leave the same at all places below both; and of runs without a fault, the pages have the same texts only
then.  If one path ends with a slash and the other does not, they have the same texts only if there is no page but
that of the folder itself. -/
theorem document_relocated {disk : Disk} {v w : Value} (htree : disk.tree.isProper) (hp : disk.node p = .ok t)
    (hq : disk.node q = .ok t) (hv : folderRecordAt disk p = .ok v) (hw : folderRecordAt disk q = .ok w)
    (hclear : Clear disk.isFile q t) :
    (Path.gap p = Path.gap q → Clear disk.isFile p t →
      ∃ u u', (document p disk).1.node p = .ok u ∧ (document q disk).1.node q = .ok u' ∧
        ∀ place, u.look place = u'.look place) ∧
    ((draft w (.text q)).fault? = none →
      (Path.gap p = Path.gap q →
        ((draft v (.text p)).pages.map Page.text = (draft w (.text q)).pages.map Page.text ↔ Clear disk.isFile p t)) ∧
      (Path.gap p ≠ Path.gap q → Clear disk.isFile p t →
        ((draft v (.text p)).pages.map Page.text = (draft w (.text q)).pages.map Page.text ↔
          documented disk.isFile t = [[]]))) := by
  obtain ⟨_, hp', hrecord⟩ := Outcome.bind_eq_ok.1 hv
  obtain ⟨_, hq', hrecord'⟩ := Outcome.bind_eq_ok.1 hw
  cases hp.symm.trans hp'
  cases hq.symm.trans hq'
  obtain ⟨es, _, rfl, -, -⟩ := folderRecord_ok hrecord
  obtain ⟨root, hleads, hat⟩ := Disk.leads_of_node hp
  obtain ⟨root', hleads', hat'⟩ := Disk.leads_of_node hq
  have ht := (FileTree.isProper.names_of_at? htree hat).1
  refine ⟨fun hgap hclear' => ?_, fun hfault => ?_⟩
  · refine ⟨_, _, node_document htree hleads hat hrecord, node_document htree hleads' hat' hrecord', fun other => ?_⟩
    refine congrArg (FileTree.look other) (withPages_congr (fun place hplace => ?_) _ _)
    exact text_of_clear hleads.ne hleads'.ne ht hrecord hclear hgap hclear'
      (mem_documented_of_course ((List.takeWhile_sublist _).subset hplace))
  · rw [(draft_follows hrecord' q).fault] at hfault
    rw [map_text_pages hrecord, map_text_pages hrecord', places_of_course hfault, List.map_inj_left]
    exact ⟨fun hgap => ⟨clear_of_texts hleads.ne hleads'.ne ht hrecord hclear hgap,
        fun hclear' _ hplace => text_of_clear hleads.ne hleads'.ne ht hrecord hclear hgap hclear' hplace⟩,
      fun hgap hclear' => texts_eq_iff_of_gap hleads.ne hleads'.ne ht hrecord hclear hgap hclear'⟩

namespace Sample

/-- A folder with folders in two levels, not listed in the order of their names. -/
def original : FileTree := .folder [("x", .empty), ("s", .folder [("u", .empty)])]

/-- Two copies of it, one deep below the root and one at the root. -/
def copies : Disk :=
  { tree := .folder [("c", original), ("x", .folder [("y", .folder [("b", original)])])], current := [] }

/-- Two copies of a folder, of which one has the name of the folder in it. -/
def twins : Disk :=
  { tree := .folder [("a", .folder [("a", .empty)]), ("b", .folder [("a", .empty)])], current := [] }

end Sample

theorem sample_document_relocated :
    Clear Sample.copies.isFile "c" Sample.original ∧
    ∃ u u', (document "c" Sample.copies).1.node "c" = .ok u ∧
      (document "/x/y/b" Sample.copies).1.node "/x/y/b" = .ok u' ∧ ∀ place, u.look place = u'.look place := by
  have hclear : Clear Sample.copies.isFile "c" Sample.original := by decide +kernel
  have hclear' : Clear Sample.copies.isFile "/x/y/b" Sample.original :=
    clear_of_slashes (by decide +kernel) (by decide)
  obtain ⟨v, hv⟩ : ∃ v, folderRecordAt Sample.copies "c" = .ok v := ⟨_, rfl⟩
  obtain ⟨w, hw⟩ : ∃ w, folderRecordAt Sample.copies "/x/y/b" = .ok w := ⟨_, rfl⟩
  have hp : Sample.copies.node "c" = .ok Sample.original := by rfl
  have hq : Sample.copies.node "/x/y/b" = .ok Sample.original := by rfl
  exact ⟨hclear, (document_relocated (by decide +kernel) hp hq hv hw hclear').1 (by decide) hclear⟩

/-- Two copies of a folder with different pages: the path `a` occurs again in `a/a`. -/
theorem pages_of_copies_differ :
    Sample.twins.node "a" = Sample.twins.node "b" ∧
    ∃ v w, folderRecordAt Sample.twins "a" = .ok v ∧ folderRecordAt Sample.twins "b" = .ok w ∧
      (draft v (.text "a")).pages.map Page.text ≠ (draft w (.text "b")).pages.map Page.text :=
  ⟨rfl, _, _, rfl, rfl, by decide +kernel⟩

end Docsmith.Docs
