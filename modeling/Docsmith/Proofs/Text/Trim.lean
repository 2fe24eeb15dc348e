import Docsmith.Proofs.Text.Pieces

/-!
# Trimming

A trimmed text is what is left between blanks on both sides (`exists_trim`); it is empty exactly if there is nothing
else (`trim_eq_nil_iff`), and does not begin or end with a blank.  More blanks around a text make no difference
(`trim_around`), and a text between two others that are not blank stays as it is (`trim_between`).
-/

namespace Docsmith.Text

variable {s t r : List Char}

private theorem trimLeft_blank_append (hs : s.all isBlank = true) (t : List Char) : trimLeft (s ++ t) = trimLeft t :=
  List.dropWhile_append_of_pos (List.all_eq_true.1 hs)

private theorem trimLeft_eq_nil_iff : trimLeft s = [] ↔ s.all isBlank = true := by
  induction s with
  | nil => simp [trimLeft]
  | cons c s ih =>
    rw [trimLeft, List.dropWhile_cons, List.all_cons]
    by_cases hc : isBlank c
    · rw [if_pos hc, hc, Bool.true_and]
      exact ih
    · simp [hc]

private theorem trimLeft_append_of_not_blank (hs : s.all isBlank = false) (t : List Char) :
    trimLeft (s ++ t) = trimLeft s ++ t := by
  have hne : s.dropWhile isBlank ≠ [] := fun h => by
    rw [trimLeft_eq_nil_iff.1 h] at hs
    cases hs
  rw [trimLeft, List.dropWhile_append, if_neg (by simpa using hne)]
  rfl

private theorem trimRight_eq_reverse (s : List Char) : trimRight s = (trimLeft s.reverse).reverse := rfl

private theorem trimRight_append_blank (ht : t.all isBlank = true) (s : List Char) :
    trimRight (s ++ t) = trimRight s := by
  rw [trimRight_eq_reverse, List.reverse_append, trimLeft_blank_append (by simpa using ht), trimRight_eq_reverse]

private theorem trimRight_append_of_not_blank (ht : t.all isBlank = false) (s : List Char) :
    trimRight (s ++ t) = s ++ trimRight t := by
  rw [trimRight_eq_reverse, List.reverse_append, trimLeft_append_of_not_blank (by simpa using ht), List.reverse_append,
    List.reverse_reverse, trimRight_eq_reverse]

theorem trimRight_eq_nil_iff : trimRight s = [] ↔ s.all isBlank = true := by
  rw [trimRight_eq_reverse, List.reverse_eq_nil_iff, trimLeft_eq_nil_iff, List.all_reverse]

theorem trim_eq_nil_iff : trim s = [] ↔ s.all isBlank = true := by
  constructor
  · intro h
    have hrest := trimRight_eq_nil_iff.1 h
    rw [← trimLeft_append s, List.all_append, hrest, List.all_takeWhile]
    rfl
  · intro h
    rw [trim, trimLeft_eq_nil_iff.2 h]
    rfl

theorem trim_blank_append (hs : s.all isBlank = true) (t : List Char) : trim (s ++ t) = trim t := by
  rw [trim, trimLeft_blank_append hs, trim]

theorem trim_append_blank (ht : t.all isBlank = true) (s : List Char) : trim (s ++ t) = trim s := by
  cases hs : s.all isBlank with
  | true => rw [trim_blank_append hs, trim_eq_nil_iff.2 ht, trim_eq_nil_iff.2 hs]
  | false => rw [trim, trimLeft_append_of_not_blank hs, trimRight_append_blank ht, trim]

/-- Blanks around a text are dropped. -/
private theorem trim_around {before after : List Char} (hbefore : before.all isBlank = true)
    (hafter : after.all isBlank = true) (s : List Char) : trim (before ++ s ++ after) = trim s := by
  rw [trim_append_blank hafter, trim_blank_append hbefore]

/-- A text is its trimmed text with blanks around it. -/
private theorem exists_trim (s : List Char) :
    ∃ before after, before.all isBlank = true ∧ after.all isBlank = true ∧ s = before ++ trim s ++ after := by
  refine ⟨s.takeWhile isBlank, ((trimLeft s).reverse.takeWhile isBlank).reverse, List.all_takeWhile, ?_, ?_⟩
  · rw [List.all_reverse]
    exact List.all_takeWhile
  · rw [List.append_assoc, trim, trimRight_append, trimLeft_append]

theorem trim_trim (s : List Char) : trim (trim s) = trim s := by
  obtain ⟨before, after, hbefore, hafter, hs⟩ := exists_trim s
  calc trim (trim s) = trim (before ++ trim s ++ after) := (trim_around hbefore hafter _).symm
    _ = trim s := by rw [← hs]

theorem length_trim_le (s : List Char) : (trim s).length ≤ s.length := by
  obtain ⟨before, after, -, -, hs⟩ := exists_trim s
  have hlength := congrArg List.length hs
  rw [List.length_append, List.length_append] at hlength
  omega

/-- A trimmed text does not begin with a blank. -/
theorem isBlank_of_trim_eq_cons {c : Char} (h : trim s = c :: t) : isBlank c = false := by
  have hleft : ∃ rest, trimLeft s = c :: rest := by
    have happend := trimRight_append (trimLeft s)
    rw [show trimRight (trimLeft s) = c :: t from h] at happend
    exact ⟨_, happend.symm⟩
  obtain ⟨rest, hrest⟩ := hleft
  have hhead := List.head?_dropWhile_not isBlank s
  rw [show s.dropWhile isBlank = c :: rest from hrest] at hhead
  exact hhead

theorem trimLeft_cons {c : Char} (hc : isBlank c = false) (s : List Char) : trimLeft (c :: s) = c :: s := by
  rw [trimLeft, List.dropWhile_cons, hc]
  rfl

theorem trimLeft_of_trim_eq (h : trim s = s) : trimLeft s = s := by
  cases s with
  | nil => rfl
  | cons c s => exact trimLeft_cons (isBlank_of_trim_eq_cons h) s

theorem trimRight_of_trim_eq (h : trim s = s) : trimRight s = s := by
  rwa [trim, trimLeft_of_trim_eq h] at h

theorem infix_trim (s : List Char) : trim s <:+: s := by
  obtain ⟨before, after, -, -, hs⟩ := exists_trim s
  exact ⟨before, after, hs.symm⟩

/-- A trimmed text does not end with a blank. -/
theorem eq_nil_of_trim_eq (h : trim s = t ++ r) (hr : r.all isBlank = true) : r = [] := by
  have hlength := length_trim_le t
  rw [← trim_append_blank hr t, ← h, trim_trim, h, List.length_append] at hlength
  exact List.length_eq_zero_iff.1 (by omega)

/-- What stands between two texts that are not blank is left alone. -/
theorem trim_between {first last : List Char} (hfirst : first.all isBlank = false) (hlast : last.all isBlank = false)
    (s : List Char) : trim (first ++ s ++ last) = trimLeft first ++ s ++ trimRight last := by
  rw [trim, List.append_assoc, trimLeft_append_of_not_blank hfirst, ← List.append_assoc,
    trimRight_append_of_not_blank hlast]

theorem trim_trimRight (s : List Char) : trim (trimRight s) = trim s := by
  have hblank : (s.reverse.takeWhile isBlank).reverse.all isBlank = true := by
    rw [List.all_reverse]
    exact List.all_takeWhile
  rw [← trim_append_blank hblank, trimRight_append]

/-- Trimming on the right leaves the trimmed text behind blanks. -/
theorem exists_trimRight (s : List Char) : ∃ before, before.all isBlank = true ∧ trimRight s = before ++ trim s := by
  cases hs : s.all isBlank with
  | true => exact ⟨[], rfl, by rw [trimRight_eq_nil_iff.2 hs, trim_eq_nil_iff.2 hs, List.append_nil]⟩
  | false =>
    obtain ⟨before, after, hbefore, hafter, heq⟩ := exists_trim s
    have hnot : (trim s).all isBlank = false := by
      refine Bool.eq_false_iff.2 fun hblank => ?_
      rw [heq, List.all_append, List.all_append, hbefore, hblank, hafter] at hs
      cases hs
    refine ⟨before, hbefore, ?_⟩
    calc trimRight s = trimRight (before ++ trim s ++ after) := by rw [← heq]
      _ = before ++ trimRight (trim s) := by rw [trimRight_append_blank hafter, trimRight_append_of_not_blank hnot]
      _ = before ++ trim s := by rw [trimRight_of_trim_eq (trim_trim s)]

theorem mem_of_mem_trimLeft {c : Char} (h : c ∈ trimLeft s) : c ∈ s := (List.dropWhile_sublist _).subset h

theorem mem_of_mem_trimRight {c : Char} (h : c ∈ trimRight s) : c ∈ s := by
  rw [← trimRight_append s]
  exact List.mem_append_left _ h

theorem mem_of_mem_trim {c : Char} (h : c ∈ trim s) : c ∈ s := mem_of_mem_trimLeft (mem_of_mem_trimRight h)

/-! ### Lines -/

variable {sep : List Char} {ss ts : List (List Char)}

private theorem join_eq_intercalate (sep : List Char) (ss : List (List Char)) : join sep ss = sep.intercalate ss := by
  induction ss with
  | nil => rfl
  | cons s ss ih =>
    cases ss with
    | nil => rw [List.intercalate_singleton, join]
    | cons t ss => rw [join, ih, List.intercalate_cons_cons]

theorem splitOn_join {c : Char} (hne : ss ≠ []) (h : ∀ s ∈ ss, c ∉ s) : splitOn [c] (join [c] ss) = ss := by
  obtain ⟨s, ss, rfl⟩ := List.exists_cons_of_ne_nil hne
  rw [join_eq_intercalate, splitOn_intercalate h]

theorem join_append (sep : List Char) (hs : ss ≠ []) (ht : ts ≠ []) :
    join sep (ss ++ ts) = join sep ss ++ sep ++ join sep ts := by
  induction ss with
  | nil => exact absurd rfl hs
  | cons s ss ih =>
    cases ss with
    | nil => exact join_cons sep s ht
    | cons s' ss =>
      rw [List.cons_append, join_cons sep s (by simp), ih (by simp), join_cons sep s (by simp)]
      simp

theorem trimLeft_join_cons (hs : s.all isBlank = false) (sep : List Char) (ss : List (List Char)) :
    trimLeft (join sep (s :: ss)) = join sep (trimLeft s :: ss) := by
  cases ss with
  | nil => rfl
  | cons t ss =>
    rw [join, join, List.append_assoc, trimLeft_append_of_not_blank hs, ← List.append_assoc]

theorem trimRight_join_concat (hs : s.all isBlank = false) (sep : List Char) (ss : List (List Char)) :
    trimRight (join sep (ss ++ [s])) = join sep (ss ++ [trimRight s]) := by
  cases ss with
  | nil => rfl
  | cons t ss =>
    rw [join_append sep (by simp) (by simp), join_append sep (by simp) (by simp), join, join,
      trimRight_append_of_not_blank hs]

end Docsmith.Text
