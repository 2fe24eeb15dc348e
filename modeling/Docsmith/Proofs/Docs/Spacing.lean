import Docsmith.Docs.Record
import Docsmith.Proofs.Docs.Listing

/-!
# Space between paragraphs

A docstring is cut into paragraphs where two line ends follow on each other, that is, at its empty lines
(`splitOn_join_lines`); a blank line that is not empty does not separate anything.  So a docstring is made of blocks,
which are lines without an empty one among them, and of gaps with an empty line each.  A gap that is cut more than once
leaves an empty paragraph for every surplus cut (`Layout.paragraphs_docstring`), and these show in the summary and the
description (`renderProse_inj`).
-/

namespace Docsmith.Docs

/-! ### Cutting at empty lines -/

/-- The groups of lines that a text is cut into at its empty lines.  An empty line between two others is passed over;
the next line begins a new group, even if it is empty too. -/
def cutAtEmpty : List (List Char) → List (List (List Char))
  | [] => []
  | [l] => [[l]]
  | l :: m :: ls =>
    if m.isEmpty && !ls.isEmpty then [l] :: cutAtEmpty ls else (cutAtEmpty (m :: ls)).modifyHead (l :: ·)

private theorem cutAtEmpty_cons (l : List Char) (ls : List (List Char)) :
    ∃ group groups, cutAtEmpty (l :: ls) = (l :: group) :: groups := by
  induction ls generalizing l with
  | nil => exact ⟨[], [], rfl⟩
  | cons m ls ih =>
    rw [cutAtEmpty]
    split
    · exact ⟨[], _, rfl⟩
    · obtain ⟨group, groups, h⟩ := ih m
      exact ⟨m :: group, groups, by rw [h]; rfl⟩

private theorem splitOn_line_append {l : List Char} (hl : '\n' ∉ l) (s : List Char) :
    Text.splitOn "\n\n".toList (l ++ s) = (Text.splitOn "\n\n".toList s).modifyHead (l ++ ·) := by
  have happend : Text.splitOn "\n\n".toList (l ++ s) = Text.splitFrom "\n\n".toList 0 (l.reverse ++ []) s :=
    Text.splitFrom_append hl [] s
  rw [happend, Text.splitFrom_eq_modifyHead, List.append_nil, List.reverse_reverse, Text.splitOn]

private theorem splitOn_newlines (s : List Char) :
    Text.splitOn "\n\n".toList ('\n' :: '\n' :: s) = [] :: Text.splitOn "\n\n".toList s := rfl

/-- A line end before a text that does not begin with one, or is empty, belongs to its first piece. -/
private theorem splitOn_newline_append {s : List Char} (hs : s.head? ≠ some '\n') :
    Text.splitOn "\n\n".toList ('\n' :: s) = (Text.splitOn "\n\n".toList s).modifyHead ('\n' :: ·) := by
  cases s with
  | nil => rfl
  | cons c s =>
    have hc : c ≠ '\n' := by simpa using hs
    have hmark : "\n\n".toList.isPrefixOf ('\n' :: c :: s) = false := by
      simpa [List.isPrefixOf] using hc.symm
    rw [Text.splitOn, Text.splitFrom, hmark, if_neg (by decide), Text.splitFrom_eq_modifyHead, Text.splitOn]
    rfl

/-- A text of lines is cut at its empty lines. -/
private theorem splitOn_join_lines {ls : List (List Char)} (hne : ls ≠ []) (hls : ∀ l ∈ ls, '\n' ∉ l) :
    Text.splitOn "\n\n".toList (Text.join ['\n'] ls) = (cutAtEmpty ls).map (Text.join ['\n']) := by
  fun_induction cutAtEmpty ls with
  | case1 => exact absurd rfl hne
  | case2 l =>
    have happend := splitOn_line_append (hls l List.mem_cons_self) []
    rw [List.append_nil] at happend
    have hnil : Text.splitOn "\n\n".toList [] = [[]] := rfl
    rw [Text.join, happend, hnil]
    simp [Text.join]
  | case3 l m ls hempty ih =>
    obtain ⟨hl, hmore⟩ := List.forall_mem_cons.1 hls
    obtain ⟨hm, hrest⟩ : m = [] ∧ ls ≠ [] := by simpa using hempty
    have hjoin : Text.join ['\n'] (l :: m :: ls) = l ++ '\n' :: '\n' :: Text.join ['\n'] ls := by
      rw [Text.join, hm, Text.join_cons _ _ hrest]
      simp
    rw [hjoin, splitOn_line_append hl, splitOn_newlines, ih hrest (List.forall_mem_cons.1 hmore).2]
    simp [Text.join]
  | case4 l m ls hempty ih =>
    obtain ⟨hl, hmore⟩ := List.forall_mem_cons.1 hls
    have hhead : (Text.join ['\n'] (m :: ls)).head? ≠ some '\n' := by
      cases m with
      | cons c m =>
        have hc : c ≠ '\n' := fun hc => hmore (c :: m) List.mem_cons_self (by simp [hc])
        cases ls <;> simpa [Text.join] using hc
      | nil =>
        obtain rfl : ls = [] := by simpa using hempty
        simp [Text.join]
    obtain ⟨group, groups, hgroups⟩ := cutAtEmpty_cons m ls
    have hjoin : Text.join ['\n'] (l :: m :: ls) = l ++ '\n' :: Text.join ['\n'] (m :: ls) := by
      rw [Text.join]
      simp
    rw [hjoin, splitOn_line_append hl, splitOn_newline_append hhead, ih (by simp) hmore, hgroups]
    simp [Text.join]

private theorem cutAtEmpty_cons_of_ne {m : List Char} (hm : m ≠ []) (l : List Char) (ls : List (List Char)) :
    cutAtEmpty (l :: m :: ls) = (cutAtEmpty (m :: ls)).modifyHead (l :: ·) := by
  rw [cutAtEmpty, if_neg (by simp [hm])]

/-- Lines that are not empty, except maybe the first, are not cut off from a line that is not empty. -/
private theorem cutAtEmpty_append {ls after : List (List Char)} {q : List Char} (hls : ∀ l ∈ ls.tail, l ≠ [])
    (hq : q ≠ []) :
    cutAtEmpty (ls ++ q :: after) = (cutAtEmpty (q :: after)).modifyHead (ls ++ ·) := by
  induction ls with
  | nil =>
    obtain ⟨group, groups, hgroups⟩ := cutAtEmpty_cons q after
    rw [List.nil_append, hgroups]
    rfl
  | cons l ls ih =>
    cases ls with
    | nil => exact cutAtEmpty_cons_of_ne hq l after
    | cons m ls =>
      obtain ⟨hm, hrest⟩ := List.forall_mem_cons.1 hls
      rw [List.cons_append, List.cons_append, cutAtEmpty_cons_of_ne hm, ← List.cons_append, ih hrest,
        List.modifyHead_modifyHead]
      rfl

/-- An empty line ends the lines before it. -/
private theorem cutAtEmpty_append_empty {ls after : List (List Char)} (hne : ls ≠ []) (hls : ∀ l ∈ ls.tail, l ≠ [])
    (hafter : after ≠ []) : cutAtEmpty (ls ++ [] :: after) = ls :: cutAtEmpty after := by
  induction ls with
  | nil => exact absurd rfl hne
  | cons l ls ih =>
    cases ls with
    | nil =>
      rw [List.singleton_append, cutAtEmpty, if_pos (by simpa using hafter)]
    | cons m ls =>
      obtain ⟨hm, hrest⟩ := List.forall_mem_cons.1 hls
      rw [List.cons_append, List.cons_append, cutAtEmpty_cons_of_ne hm, ← List.cons_append, ih (by simp) hrest]
      rfl

private theorem cutAtEmpty_of_ne {ls : List (List Char)} (hne : ls ≠ []) (hls : ∀ l ∈ ls.tail, l ≠ []) :
    cutAtEmpty ls = [ls] := by
  induction ls with
  | nil => exact absurd rfl hne
  | cons l ls ih =>
    cases ls with
    | nil => rfl
    | cons m ls =>
      obtain ⟨hm, hrest⟩ := List.forall_mem_cons.1 hls
      rw [cutAtEmpty_cons_of_ne hm, ih (by simp) hrest]
      rfl

/-! ### Blank lines -/

/-- The text of a group of lines, without blanks around it. -/
def groupText (ls : List (List Char)) : List Char := Text.trim (Text.join ['\n'] ls)

private theorem paragraphs_join {ls : List (List Char)} (hne : ls ≠ []) (hls : ∀ l ∈ ls, '\n' ∉ l) :
    paragraphs (Text.join ['\n'] ls) = (cutAtEmpty ls).map groupText := by
  rw [paragraphs, splitOn_join_lines hne hls, List.map_map]
  rfl

private theorem all_isBlank_join_iff {ls : List (List Char)} :
    (Text.join ['\n'] ls).all Text.isBlank = true ↔ ∀ l ∈ ls, l.all Text.isBlank = true := by
  induction ls with
  | nil => simp [Text.join]
  | cons l ls ih =>
    cases ls with
    | nil => rw [Text.join, List.forall_mem_singleton]
    | cons m ls =>
      have hend : ['\n'].all Text.isBlank = true := by decide
      rw [Text.join, List.all_append, List.all_append, hend, Bool.and_true, Bool.and_eq_true, ih,
        List.forall_mem_cons (l := m :: ls)]

private theorem groupText_of_blank {ls : List (List Char)} (h : ∀ l ∈ ls, l.all Text.isBlank = true) :
    groupText ls = [] :=
  Text.trim_eq_nil_iff.2 (all_isBlank_join_iff.2 h)

private theorem groupText_append_blank {ls blanks : List (List Char)} (h : ∀ l ∈ blanks, l.all Text.isBlank = true) :
    groupText (ls ++ blanks) = groupText ls := by
  by_cases hls : ls = []
  · rw [hls, List.nil_append, groupText_of_blank h]
    rfl
  · by_cases hblanks : blanks = []
    · rw [hblanks, List.append_nil]
    · have hrest : (['\n'] ++ Text.join ['\n'] blanks).all Text.isBlank = true := by
        rw [List.all_append, all_isBlank_join_iff.2 h]
        decide
      rw [groupText, Text.join_append _ hls hblanks, List.append_assoc, Text.trim_append_blank hrest, groupText]

private theorem groupText_blank_append {ls blanks : List (List Char)} (h : ∀ l ∈ blanks, l.all Text.isBlank = true) :
    groupText (blanks ++ ls) = groupText ls := by
  by_cases hls : ls = []
  · rw [hls, List.append_nil, groupText_of_blank h]
    rfl
  · by_cases hblanks : blanks = []
    · rw [hblanks, List.nil_append]
    · have hrest : (Text.join ['\n'] blanks ++ ['\n']).all Text.isBlank = true := by
        rw [List.all_append, all_isBlank_join_iff.2 h]
        decide
      rw [groupText, Text.join_append _ hblanks hls, Text.trim_blank_append hrest, groupText]

/-- How often a text is cut in lines between two others: at each empty line, unless it follows at once on a cut. -/
def emptyCuts : List (List Char) → Nat
  | [] => 0
  | [l] => if l.isEmpty then 1 else 0
  | l :: m :: ls => if l.isEmpty then emptyCuts ls + 1 else emptyCuts (m :: ls)

private theorem emptyCuts_eq_zero {ls : List (List Char)} (h : [] ∉ ls) : emptyCuts ls = 0 := by
  fun_induction emptyCuts ls with
  | case1 => rfl
  | case2 l hl => exact absurd (by simpa using hl) h
  | case3 => rfl
  | case4 l m ls hl ih => exact absurd (by simp [List.isEmpty_iff.1 hl]) h
  | case5 l m ls hl ih => exact ih fun hmem => h (List.mem_cons_of_mem l hmem)

private theorem emptyCuts_pos {ls : List (List Char)} (h : [] ∈ ls) : 0 < emptyCuts ls := by
  fun_induction emptyCuts ls with
  | case1 => cases h
  | case2 l hl => exact Nat.one_pos
  | case3 l hl => simp_all
  | case4 l m ls hl ih => exact Nat.succ_pos _
  | case5 l m ls hl ih => exact ih (by simp_all)

/-- Blank lines with an empty one among them separate the lines before from those after; every further cut makes an
empty paragraph. -/
private theorem map_groupText_gap {gap ls after : List (List Char)} {q : List Char} (hempty : [] ∈ gap)
    (hblank : ∀ l ∈ gap, l.all Text.isBlank = true) (hne : ls ≠ []) (hls : ∀ l ∈ ls.tail, l ≠ []) (hq : q ≠ []) :
    (cutAtEmpty (ls ++ gap ++ q :: after)).map groupText =
      groupText ls :: (List.replicate (emptyCuts gap - 1) [] ++ (cutAtEmpty (q :: after)).map groupText) := by
  fun_induction emptyCuts gap generalizing ls with
  | case1 => cases hempty
  | case2 l hl =>
    rw [List.isEmpty_iff.1 hl, List.append_assoc, List.singleton_append,
      cutAtEmpty_append_empty hne hls (List.cons_ne_nil _ _)]
    rfl
  | case3 l hl => simp_all
  | case4 l m gap hl ih =>
    obtain ⟨hm, hgap⟩ := List.forall_mem_cons.1 (List.forall_mem_cons.1 hblank).2
    have hmText : groupText [m] = [] := groupText_of_blank (by simpa using hm)
    rw [List.isEmpty_iff.1 hl, List.append_assoc, List.cons_append,
      cutAtEmpty_append_empty hne hls (by simp), List.map_cons, Nat.add_sub_cancel]
    -- the line `m` begins a group: of blank lines only, if there is a further cut
    by_cases hmore : [] ∈ gap
    · have hpos := emptyCuts_pos hmore
      have hrest := @ih [m] hmore hgap (by simp) (by simp)
      rw [List.singleton_append, hmText, ← List.cons_append, ← List.replicate_succ, Nat.sub_add_cancel hpos] at hrest
      rw [hrest]
    · have hlines : ∀ l ∈ (m :: gap).tail, l ≠ [] := fun l hl hnil => hmore (hnil ▸ hl)
      obtain ⟨group, groups, hgroups⟩ := cutAtEmpty_cons q after
      rw [cutAtEmpty_append hlines hq, hgroups, emptyCuts_eq_zero hmore, List.modifyHead_cons, List.map_cons,
        groupText_blank_append (List.forall_mem_cons.2 ⟨hm, hgap⟩)]
      rfl
  | case5 l m gap hl ih =>
    obtain ⟨hblankLine, hgap⟩ := List.forall_mem_cons.1 hblank
    have hlne : l ≠ [] := by simpa using hl
    have hmem : [] ∈ m :: gap := (List.mem_cons.1 hempty).resolve_left hlne.symm
    have htail : ∀ k ∈ (ls ++ [l]).tail, k ≠ [] := by
      obtain ⟨k, ls, rfl⟩ := List.exists_cons_of_ne_nil hne
      rw [List.cons_append, List.tail_cons]
      exact List.forall_mem_append.2 ⟨hls, by simpa using hlne⟩
    have hrest := @ih (ls ++ [l]) hmem hgap (by simp) htail
    rw [groupText_append_blank (by simpa using hblankLine)] at hrest
    rw [← hrest]
    simp

/-! ### Docstrings of blocks and gaps -/

/-- A block of a docstring: lines of which none is empty and not all are blank.  A paragraph, which has no blank lines
at all, is a block; and so are paragraphs with no other lines between them than blank ones that are not empty. -/
structure Block where
  lines : List (List Char)
  isLine : ∀ l ∈ lines, '\n' ∉ l
  line_ne_nil : ∀ l ∈ lines, l ≠ []
  not_blank : ∃ l ∈ lines, l.all Text.isBlank = false

/-- Blank lines between two blocks, at least one of them empty. -/
structure Gap where
  lines : List (List Char)
  isLine : ∀ l ∈ lines, '\n' ∉ l
  blank : ∀ l ∈ lines, l.all Text.isBlank = true
  empty_mem : [] ∈ lines

/-- A docstring of blocks with gaps between them. -/
structure Layout where
  first : Block
  rest : List (Gap × Block)

/-- The text of a block, without blanks around it. -/
def Block.text (b : Block) : List Char := groupText b.lines

/-- How many cuts in a gap are more than one. -/
def Gap.surplus (g : Gap) : Nat := emptyCuts g.lines - 1

namespace Layout

/-- The blocks of a docstring. -/
def blocks (l : Layout) : List Block := l.first :: l.rest.map (·.2)

/-- The lines of a docstring. -/
def lines (l : Layout) : List (List Char) := l.first.lines ++ l.rest.flatMap fun x => x.1.lines ++ x.2.lines

/-- The docstring itself. -/
def docstring (l : Layout) : List Char := Text.join ['\n'] l.lines

/-- The blocks with an empty paragraph for every surplus cut. -/
def spaced (l : Layout) : List (List Char) :=
  l.first.text :: l.rest.flatMap fun x => List.replicate x.1.surplus [] ++ [x.2.text]

/-- The blocks that open no section, with an empty paragraph for every surplus cut. -/
def prose (l : Layout) : List (List Char) := l.spaced.filter fun p => !startsWithAny p sectionMarks

end Layout

private theorem Block.lines_ne_nil (b : Block) : b.lines ≠ [] := by
  obtain ⟨l, hl, -⟩ := b.not_blank
  exact List.ne_nil_of_mem hl

private theorem Block.text_ne_nil (b : Block) : b.text ≠ [] := by
  intro hnil
  obtain ⟨l, hl, hblank⟩ := b.not_blank
  rw [all_isBlank_join_iff.1 (Text.trim_eq_nil_iff.1 hnil) l hl] at hblank
  cases hblank

private theorem Layout.isLine (l : Layout) : ∀ line ∈ l.lines, '\n' ∉ line := by
  rw [lines, List.forall_mem_append]
  refine ⟨l.first.isLine, fun line hline => ?_⟩
  obtain ⟨⟨g, b⟩, -, hline⟩ := List.mem_flatMap.1 hline
  rcases List.mem_append.1 hline with hline | hline
  · exact g.isLine line hline
  · exact b.isLine line hline

private theorem Layout.map_groupText (first : Block) (rest : List (Gap × Block)) :
    (cutAtEmpty (lines ⟨first, rest⟩)).map groupText = spaced ⟨first, rest⟩ := by
  have htail : ∀ l ∈ first.lines.tail, l ≠ [] := fun l hl => first.line_ne_nil l (List.mem_of_mem_tail hl)
  induction rest generalizing first with
  | nil =>
    have hlines : lines ⟨first, []⟩ = first.lines := List.append_nil _
    rw [hlines, cutAtEmpty_of_ne first.lines_ne_nil htail]
    rfl
  | cons x rest ih =>
    obtain ⟨gap, b⟩ := x
    obtain ⟨q, more, hb⟩ := List.exists_cons_of_ne_nil b.lines_ne_nil
    have hq : q ≠ [] := b.line_ne_nil q (by simp [hb])
    obtain ⟨after, hafter⟩ : ∃ after, lines ⟨b, rest⟩ = q :: after := ⟨_, by rw [lines, hb]; rfl⟩
    have hlines : lines ⟨first, (gap, b) :: rest⟩ = first.lines ++ gap.lines ++ q :: after := by
      rw [← hafter]
      simp [lines]
    rw [hlines, map_groupText_gap gap.empty_mem gap.blank first.lines_ne_nil htail hq, ← hafter,
      ih b fun l hl => b.line_ne_nil l (List.mem_of_mem_tail hl)]
    simp [spaced, Block.text, Gap.surplus]

/-- The paragraphs that a docstring is cut into are its blocks, and an empty one for every surplus cut. -/
private theorem Layout.paragraphs_docstring (l : Layout) : paragraphs l.docstring = l.spaced := by
  have hne : l.lines ≠ [] := List.append_ne_nil_of_left_ne_nil l.first.lines_ne_nil _
  rw [docstring, paragraphs_join hne l.isLine, map_groupText]

/-! ### What the page shows of the space -/

/-- A text that does not begin with a blank. -/
def StartsPlain (s : List Char) : Prop := ∀ c ∈ s.head?, Text.isBlank c = false

private theorem startsPlain_trim (s : List Char) : StartsPlain (Text.trim s) := by
  intro c hc
  obtain ⟨rest, hrest⟩ := List.head?_eq_some_iff.1 hc
  exact Text.isBlank_of_trim_eq_cons hrest

private theorem StartsPlain.oneLine {p : List Char} (hp : StartsPlain p) :
    StartsPlain (Docs.oneLine p) ∧ (Docs.oneLine p = [] ↔ p = []) := by
  cases p with
  | nil => exact ⟨hp, iff_of_true rfl rfl⟩
  | cons c p =>
    have hc : c ≠ '\n' := fun hc => absurd (hp c rfl) (by rw [hc]; decide)
    have hcons : Docs.oneLine (c :: p) = c :: Docs.oneLine p := Text.replaceAll_singleton_cons_of_ne hc _ _
    rw [hcons]
    exact ⟨hp, by simp⟩

/-- Before texts that begin with a blank, if at all, a text that does not cannot be taken for an empty one. -/
private theorem StartsPlain.eq_nil_iff {p q x y : List Char} (hp : StartsPlain p) (hq : StartsPlain q)
    (hx : ∀ c ∈ x.head?, Text.isBlank c = true) (hy : ∀ c ∈ y.head?, Text.isBlank c = true)
    (h : p ++ x = q ++ y) : p = [] ↔ q = [] := by
  constructor
  · rintro rfl
    cases q with
    | nil => rfl
    | cons c q =>
      have hblank := hx c (by rw [← List.nil_append x, h]; rfl)
      rw [hq c rfl] at hblank
      cases hblank
  · rintro rfl
    cases p with
    | nil => rfl
    | cons c p =>
      have hblank := hy c (by rw [← List.nil_append y, ← h]; rfl)
      rw [hp c rfl] at hblank
      cases hblank

/-- The lists have the same texts, the empty ones apart. -/
def SameTexts (ps qs : List (List Char)) : Prop := ps.filter (!·.isEmpty) = qs.filter (!·.isEmpty)

private theorem SameTexts.head_eq {p q : List Char} {ps qs : List (List Char)} (h : SameTexts (p :: ps) (q :: qs))
    (hnil : p = [] ↔ q = []) : p = q ∧ SameTexts ps qs := by
  by_cases hp : p = []
  · obtain rfl : p = q := hp.trans (hnil.1 hp).symm
    subst hp
    exact ⟨rfl, h⟩
  · have hq := mt hnil.2 hp
    simpa [SameTexts, hp, hq] using h

/-- Texts in one line, each after a blank. -/
def spacedOut (ps : List (List Char)) : List Char := ps.flatMap fun p => ' ' :: oneLine p

private theorem isBlank_of_mem_head?_spacedOut (ps : List (List Char)) :
    ∀ c ∈ (spacedOut ps).head?, Text.isBlank c = true := by
  cases ps with
  | nil => simp [spacedOut]
  | cons p ps =>
    intro c hc
    obtain rfl : ' ' = c := by simpa [spacedOut] using hc
    decide

/-- An empty text shows as two blanks one after the other. -/
private theorem spacedOut_inj {ps qs : List (List Char)} (hps : ∀ p ∈ ps, StartsPlain p) (hqs : ∀ q ∈ qs, StartsPlain q)
    (hsame : SameTexts ps qs) (h : spacedOut ps = spacedOut qs) : ps = qs := by
  induction ps generalizing qs with
  | nil =>
    cases qs with
    | nil => rfl
    | cons q qs => cases h
  | cons p ps ih =>
    cases qs with
    | nil => cases h
    | cons q qs =>
      obtain ⟨hp, hps'⟩ := List.forall_mem_cons.1 hps
      obtain ⟨hq, hqs'⟩ := List.forall_mem_cons.1 hqs
      have hrest : oneLine p ++ spacedOut ps = oneLine q ++ spacedOut qs := (List.cons.inj h).2
      have hnil := hp.oneLine.1.eq_nil_iff hq.oneLine.1 (isBlank_of_mem_head?_spacedOut ps)
        (isBlank_of_mem_head?_spacedOut qs) hrest
      rw [hp.oneLine.2, hq.oneLine.2] at hnil
      obtain ⟨rfl, hsame'⟩ := hsame.head_eq hnil
      rw [ih hps' hqs' hsame' (List.append_cancel_left hrest)]

/-- What follows the summary. -/
def description (ps : List (List Char)) : List Char :=
  match ps with
  | [] => []
  | p :: ps => "\n#### Description\n".toList ++ Text.join [' '] ((p :: ps).map oneLine) ++ ['\n']

private theorem renderProse_cons (p : List Char) (ps : List (List Char)) :
    renderProse (p :: ps) = p ++ '\n' :: description ps := by
  cases ps with
  | nil => rfl
  | cons q ps =>
    have hrender : renderProse (p :: q :: ps) =
        p ++ "\n\n#### Description\n".toList ++ Text.join [' '] ((q :: ps).map oneLine) ++ ['\n'] := rfl
    have hheading : "\n\n#### Description\n".toList = '\n' :: "\n#### Description\n".toList := by decide
    rw [hrender, hheading]
    delta description
    simp only [List.append_assoc, List.cons_append]

private theorem cons_join_eq_spacedOut (p : List Char) (ps : List (List Char)) :
    ' ' :: Text.join [' '] ((p :: ps).map oneLine) = spacedOut (p :: ps) := by
  induction ps generalizing p with
  | nil => simp [spacedOut, Text.join]
  | cons q ps ih =>
    have hjoin : Text.join [' '] ((p :: q :: ps).map oneLine) =
        oneLine p ++ [' '] ++ Text.join [' '] ((q :: ps).map oneLine) := rfl
    have hspaced : spacedOut (p :: q :: ps) = ' ' :: oneLine p ++ spacedOut (q :: ps) := rfl
    rw [hjoin, hspaced, ← ih]
    simp

private theorem description_inj {ps qs : List (List Char)} (hps : ∀ p ∈ ps, StartsPlain p)
    (hqs : ∀ q ∈ qs, StartsPlain q) (hsame : SameTexts ps qs) (h : description ps = description qs) : ps = qs := by
  have hcons : ∀ p ps, description (p :: ps) =
      "\n#### Description\n".toList ++ Text.join [' '] ((p :: ps).map oneLine) ++ ['\n'] := fun _ _ => rfl
  have hnil : ∀ p ps, description (p :: ps) ≠ description [] := by
    intro p ps
    rw [hcons]
    exact List.append_ne_nil_of_right_ne_nil _ (List.cons_ne_nil _ _)
  cases ps with
  | nil =>
    cases qs with
    | nil => rfl
    | cons q qs => exact absurd h.symm (hnil q qs)
  | cons p ps =>
    cases qs with
    | nil => exact absurd h (hnil p ps)
    | cons q qs =>
      rw [hcons, hcons] at h
      have hjoin := List.append_cancel_left (List.append_cancel_right h)
      refine spacedOut_inj hps hqs hsame ?_
      rw [← cons_join_eq_spacedOut, ← cons_join_eq_spacedOut, hjoin]

/-- The summary and the description show every empty paragraph. -/
private theorem renderProse_inj {ps qs : List (List Char)} (hps : ∀ p ∈ ps, StartsPlain p)
    (hqs : ∀ q ∈ qs, StartsPlain q) (hsame : SameTexts ps qs) (h : renderProse ps = renderProse qs) : ps = qs := by
  have hnil : ∀ p ps, renderProse (p :: ps) ≠ renderProse [] := by
    intro p ps
    rw [renderProse_cons]
    exact List.append_ne_nil_of_right_ne_nil _ (List.cons_ne_nil _ _)
  have hblank : ∀ ps, ∀ c ∈ ('\n' :: description ps).head?, Text.isBlank c = true := by
    intro ps c hc
    obtain rfl : '\n' = c := by simpa using hc
    decide
  cases ps with
  | nil =>
    cases qs with
    | nil => rfl
    | cons q qs => exact absurd h.symm (hnil q qs)
  | cons p ps =>
    cases qs with
    | nil => exact absurd h (hnil p ps)
    | cons q qs =>
      rw [renderProse_cons, renderProse_cons] at h
      obtain ⟨hp, hps'⟩ := List.forall_mem_cons.1 hps
      obtain ⟨hq, hqs'⟩ := List.forall_mem_cons.1 hqs
      obtain ⟨rfl, hsame'⟩ := hsame.head_eq (hp.eq_nil_iff hq (hblank ps) (hblank qs) h)
      rw [description_inj hps' hqs' hsame' (List.cons.inj (List.append_cancel_left h)).2]

/-! ### Docstrings of the same blocks -/

namespace Layout

variable {l m : Layout}

private theorem startsPlain_spaced (l : Layout) : ∀ p ∈ l.spaced, StartsPlain p := by
  intro p hp
  rw [← l.paragraphs_docstring] at hp
  obtain ⟨piece, -, rfl⟩ := List.mem_map.1 hp
  exact startsPlain_trim piece

private theorem filter_spaced (l : Layout) : l.spaced.filter (!·.isEmpty) = l.blocks.map Block.text := by
  have hrest : ∀ rest : List (Gap × Block),
      (rest.flatMap fun x => List.replicate x.1.surplus [] ++ [x.2.text]).filter (!·.isEmpty) =
        rest.map fun x => x.2.text := by
    intro rest
    induction rest with
    | nil => rfl
    | cons x rest ih => simp [ih, x.2.text_ne_nil]
  simp [spaced, blocks, hrest, l.first.text_ne_nil]

/-- What does not hold of the empty text is found among the blocks. -/
private theorem find?_spaced {holds : List Char → Bool} (hnil : holds [] = false) (l : Layout) :
    l.spaced.find? holds = (l.blocks.map Block.text).find? holds := by
  rw [← filter_spaced, List.find?_filter]
  refine congrArg (List.find? · l.spaced) (funext fun p => ?_)
  cases p with
  | nil => simp [hnil]
  | cons c p => simp

private theorem sameTexts_prose (h : l.blocks = m.blocks) : SameTexts l.prose m.prose := by
  have hprose : ∀ k : Layout, k.prose.filter (!·.isEmpty) =
      (k.blocks.map Block.text).filter fun p => !startsWithAny p sectionMarks := by
    intro k
    rw [prose, List.filter_filter, ← filter_spaced, List.filter_filter]
    simp only [Bool.and_comm]
  rw [SameTexts, hprose, hprose, h]

private theorem docstring_ne_nil (l : Layout) : l.docstring ≠ [] := by
  intro hnil
  have hspaced := l.paragraphs_docstring
  rw [hnil] at hspaced
  exact l.first.text_ne_nil (List.cons.inj hspaced).1.symm

/-- On the page only the summary and the description depend on the gaps. -/
private theorem render_docstring (name : List Char) (l : Layout) :
    FunctionDoc.render ⟨name, some l.docstring⟩ =
      "### Function: `".toList ++ name ++ "`\n".toList ++ renderProse l.prose ++
        renderArguments ((l.blocks.map Block.text).find? (startsWithAny · argumentMarks)) ++
        (renderReturns ((l.blocks.map Block.text).find? (startsWithAny · returnMarks)) ++ ['\n']) := by
  rw [FunctionDoc.render_some, l.paragraphs_docstring, find?_spaced (by decide), find?_spaced (by decide)]
  delta beforeArguments
  rw [l.paragraphs_docstring, prose]

private theorem render_eq_iff (h : l.blocks = m.blocks) (name : List Char) :
    FunctionDoc.render ⟨name, some l.docstring⟩ = FunctionDoc.render ⟨name, some m.docstring⟩ ↔ l.prose = m.prose := by
  rw [render_docstring, render_docstring, h, List.append_left_inj, List.append_left_inj, List.append_right_inj]
  have hplain : ∀ k : Layout, ∀ p ∈ k.prose, StartsPlain p := fun k p hp =>
    k.startsPlain_spaced p (List.mem_filter.1 hp).1
  exact ⟨renderProse_inj (hplain l) (hplain m) (sameTexts_prose h), congrArg renderProse⟩

private theorem prose_of_surplus (h : ∀ x ∈ l.rest, x.1.surplus = 0) :
    l.prose = (l.blocks.map Block.text).filter fun p => !startsWithAny p sectionMarks := by
  have hrest :
      (l.rest.flatMap fun x => List.replicate x.1.surplus [] ++ [x.2.text]) = l.rest.map fun x => x.2.text := by
    rw [List.map_eq_flatMap, List.flatMap_def, List.flatMap_def]
    refine congrArg List.flatten (List.map_congr_left fun x hx => ?_)
    rw [h x hx]
    rfl
  rw [prose, spaced, hrest, blocks, List.map_cons, List.map_map]
  rfl

end Layout

private theorem emptyCuts_le_one {ls : List (List Char)} (h : ls.length ≤ 2) : emptyCuts ls ≤ 1 := by
  rcases ls with _ | ⟨a, _ | ⟨b, _ | ⟨c, ls⟩⟩⟩
  · exact Nat.zero_le 1
  · rw [emptyCuts]
    split <;> decide
  · rw [emptyCuts, emptyCuts, emptyCuts]
    split
    · exact Nat.le_refl 1
    · split <;> decide
  · simp at h

/-- A gap of at most two lines is cut once. -/
private theorem Gap.surplus_eq_zero {g : Gap} (h : g.lines.length ≤ 2) : g.surplus = 0 :=
  Nat.sub_eq_zero_of_le (emptyCuts_le_one h)

/-- Two docstrings of the same blocks have the same page exactly if their surplus cuts stand at the same places between
the blocks that open no section.  There are none if no gap has more than two lines. -/
theorem same_page_iff_same_prose {v w name : Value} {l m : Layout} (hblocks : l.blocks = m.blocks)
    (hnamev : v.field "name" = .ok name) (hnamew : w.field "name" = .ok name)
    (hdocv : v.getOr (.text "docstring") .null = .ok (.text (String.ofList l.docstring)))
    (hdocw : w.getOr (.text "docstring") .null = .ok (.text (String.ofList m.docstring))) :
    ∃ f g, FunctionDoc.ofValue v = .ok f ∧ FunctionDoc.ofValue w = .ok g ∧
      (f.render = g.render ↔ l.prose = m.prose) ∧
      ((∀ x ∈ l.rest ++ m.rest, x.1.lines.length ≤ 2) → f.render = g.render) := by
  have hne : ∀ k : Layout, String.ofList k.docstring ≠ "" := by
    intro k hk
    have hchars := congrArg String.toList hk
    rw [String.toList_ofList] at hchars
    exact k.docstring_ne_nil hchars
  have hiff := Layout.render_eq_iff hblocks name.display
  refine ⟨⟨name.display, some l.docstring⟩, ⟨name.display, some m.docstring⟩, ?_, ?_, hiff, fun hlines => hiff.2 ?_⟩
  · rw [FunctionDoc.ofValue_of_docstring hnamev hdocv (hne l), String.toList_ofList]
  · rw [FunctionDoc.ofValue_of_docstring hnamew hdocw (hne m), String.toList_ofList]
  · obtain ⟨hl, hm⟩ := List.forall_mem_append.1 hlines
    rw [Layout.prose_of_surplus fun x hx => Gap.surplus_eq_zero (hl x hx),
      Layout.prose_of_surplus fun x hx => Gap.surplus_eq_zero (hm x hx), hblocks]

namespace Sample

/-- A summary. -/
def summary : Block := ⟨["Add.".toList], by decide, by decide, ⟨_, List.mem_cons_self, by decide⟩⟩

/-- A section on arguments. -/
def arguments : Block :=
  ⟨["Args:".toList, "    a (int): one".toList], by decide, by decide, ⟨_, List.mem_cons_self, by decide⟩⟩

/-- A further paragraph. -/
def remark : Block := ⟨["More.".toList], by decide, by decide, ⟨_, List.mem_cons_self, by decide⟩⟩

/-- A gap that is cut once. -/
def narrow : Gap := ⟨[[]], by decide, by decide, by decide⟩

/-- A gap that is cut twice. -/
def wide : Gap := ⟨[[], [' ', '\t'], []], by decide, by decide, by decide⟩

/-- The record of a function with a docstring of blocks and gaps. -/
def laidOut (l : Layout) : Value := documented (String.ofList l.docstring)

end Sample

/-- On both sides of a section a surplus cut shows in the same way. -/
theorem sample_same_page_iff_same_prose :
    ∃ f g, FunctionDoc.ofValue (Sample.laidOut ⟨Sample.summary, [(Sample.wide, Sample.arguments),
        (Sample.narrow, Sample.remark)]⟩) = .ok f ∧
      FunctionDoc.ofValue (Sample.laidOut ⟨Sample.summary, [(Sample.narrow, Sample.arguments),
        (Sample.wide, Sample.remark)]⟩) = .ok g ∧ f.render = g.render := by
  obtain ⟨f, g, hf, hg, hiff, -⟩ := same_page_iff_same_prose
    (l := ⟨Sample.summary, [(Sample.wide, Sample.arguments), (Sample.narrow, Sample.remark)]⟩)
    (m := ⟨Sample.summary, [(Sample.narrow, Sample.arguments), (Sample.wide, Sample.remark)]⟩)
    rfl (Sample.name_documented _) (Sample.name_documented _) (Sample.docstring_documented _)
    (Sample.docstring_documented _)
  exact ⟨f, g, hf, hg, hiff.2 (by decide +kernel)⟩

/-- More empty lines between two paragraphs add a section without a text to the page, and a blank in the only line
between them takes the section on arguments away. -/
theorem blank_lines_show :
    Layout.blocks ⟨Sample.summary, [(Sample.narrow, Sample.arguments)]⟩ =
        Layout.blocks ⟨Sample.summary, [(Sample.wide, Sample.arguments)]⟩ ∧
      ∃ f g h, FunctionDoc.ofValue (Sample.laidOut ⟨Sample.summary, [(Sample.narrow, Sample.arguments)]⟩) = .ok f ∧
        FunctionDoc.ofValue (Sample.laidOut ⟨Sample.summary, [(Sample.wide, Sample.arguments)]⟩) = .ok g ∧
        FunctionDoc.ofValue (Sample.documented "Add.\n \nArgs:\n    a (int): one") = .ok h ∧
        f.render ≠ g.render ∧ f.render ≠ h.render ∧
        g.render = ("### Function: `scale`\nAdd.\n\n#### Description\n\n#### Arguments:\n- a\n  - Type: int\n" ++
          "  - one\n#### Returns:\n_None_\n\n").toList ∧
        h.render = ("### Function: `scale`\nAdd.\n \nArgs:\n    a (int): one\n#### Arguments:\n_None_\n" ++
          "#### Returns:\n_None_\n\n").toList := by
  refine ⟨rfl, _, _, _, rfl, rfl, rfl, ?_, ?_, ?_, ?_⟩
  · decide +kernel
  · decide +kernel
  · decide +kernel
  · decide +kernel

end Docsmith.Docs
