import Docsmith.Text.Blank
import Docsmith.Text.Search

/-!
# The pieces of a text

The pieces that a text is cut into, with the separator between them, are the text again (`join_splitOn`), and with
another text between them they are the text in which the separator is replaced (`replaceAll_eq_join`).  Replacing a
single character is done character by character (`replaceAll_singleton`).  Pieces without the separator are found again
(`splitOn_intercalate`).
-/

namespace Docsmith.Text

variable {sep s : List Char}

theorem join_cons (sep p : List Char) {ps : List (List Char)} (hne : ps ≠ []) :
    join sep (p :: ps) = p ++ sep ++ join sep ps := by
  cases ps with
  | nil => exact absurd rfl hne
  | cons q ps => rfl

private theorem splitFrom_ne_nil (sep : List Char) (k : Nat) (acc s : List Char) : splitFrom sep k acc s ≠ [] := by
  induction s generalizing k acc with
  | nil => simp [splitFrom]
  | cons c s ih =>
    cases k with
    | succ k => exact ih k acc
    | zero =>
      rw [splitFrom]
      split
      · exact List.cons_ne_nil _ _
      · exact ih 0 (c :: acc)

/-- A separator in front of a text, and what follows it. -/
private theorem append_drop_of_isPrefixOf {c : Char} (hne : sep ≠ []) (h : sep.isPrefixOf (c :: s) = true) :
    sep ++ s.drop (sep.length - 1) = c :: s := by
  obtain ⟨rest, hrest⟩ := List.isPrefixOf_iff_prefix.1 h
  obtain ⟨d, tail, rfl⟩ := List.exists_cons_of_ne_nil hne
  obtain ⟨rfl, rfl⟩ : d = c ∧ tail ++ rest = s := by simpa using hrest
  simp

private theorem join_splitFrom (hne : sep ≠ []) (k : Nat) (acc s : List Char) :
    join sep (splitFrom sep k acc s) = acc.reverse ++ s.drop k := by
  induction s generalizing k acc with
  | nil => simp [splitFrom, join]
  | cons c s ih =>
    cases k with
    | succ k =>
      rw [splitFrom, ih]
      rfl
    | zero =>
      rw [splitFrom]
      split
      next h =>
        rw [join_cons _ _ (splitFrom_ne_nil sep _ [] s), ih, List.reverse_nil, List.nil_append, List.append_assoc,
          append_drop_of_isPrefixOf hne h]
        rfl
      next =>
        rw [ih]
        simp

/-- The pieces of a text with the separator between them are the text. -/
theorem join_splitOn (hne : sep ≠ []) (s : List Char) : join sep (splitOn sep s) = s := by
  rw [splitOn, join_splitFrom hne]
  rfl

theorem splitFrom_append {c : Char} {m s : List Char} (hs : c ∉ s) (acc rest : List Char) :
    splitFrom (c :: m) 0 acc (s ++ rest) = splitFrom (c :: m) 0 (s.reverse ++ acc) rest := by
  induction s generalizing acc with
  | nil => rfl
  | cons d s ih =>
    obtain ⟨hd, hs⟩ : ¬ c = d ∧ c ∉ s := by simpa using hs
    simp [splitFrom, hd, ih hs]

/-- The characters read before belong to the first piece. -/
theorem splitFrom_eq_modifyHead (sep : List Char) (k : Nat) (acc s : List Char) :
    splitFrom sep k acc s = (splitFrom sep k [] s).modifyHead (acc.reverse ++ ·) := by
  induction s generalizing k acc with
  | nil => simp [splitFrom]
  | cons c s ih =>
    cases k with
    | succ k => exact ih k acc
    | zero =>
      rw [splitFrom, splitFrom]
      split
      · simp
      · rw [ih 0 (c :: acc), ih 0 [c], List.modifyHead_modifyHead]
        simp [Function.comp_def]

theorem splitOn_of_not_mem {c : Char} (hs : c ∉ s) : splitOn [c] s = [s] := by
  have h := splitFrom_append (m := []) hs [] []
  rw [List.append_nil, List.append_nil] at h
  rw [splitOn, h, splitFrom, List.reverse_reverse]

theorem splitOn_append {c : Char} (hs : c ∉ s) (rest : List Char) :
    splitOn [c] (s ++ c :: rest) = s :: splitOn [c] rest := by
  rw [splitOn, splitFrom_append hs]
  simp [splitFrom, splitOn]

/-- Cutting at a separator undoes putting it between pieces that do not have it. -/
theorem splitOn_intercalate {c : Char} {s : List Char} {ss : List (List Char)} (h : ∀ p ∈ s :: ss, c ∉ p) :
    splitOn [c] ([c].intercalate (s :: ss)) = s :: ss := by
  induction ss generalizing s with
  | nil =>
    rw [List.intercalate_singleton]
    exact splitOn_of_not_mem (h s List.mem_cons_self)
  | cons s' ss ih =>
    rw [List.intercalate_cons_cons, List.append_assoc, List.singleton_append,
      splitOn_append (h s List.mem_cons_self), ih fun p hp => h p (List.mem_cons_of_mem _ hp)]

private theorem replaceFrom_eq_join (sep new : List Char) (k : Nat) (acc s : List Char) :
    acc.reverse ++ replaceFrom sep new k s = join new (splitFrom sep k acc s) := by
  induction s generalizing k acc with
  | nil => simp [splitFrom, replaceFrom, join]
  | cons c s ih =>
    cases k with
    | succ k => exact ih k acc
    | zero =>
      rw [splitFrom, replaceFrom]
      split
      next =>
        rw [join_cons _ _ (splitFrom_ne_nil sep _ [] s), ← ih, List.reverse_nil, List.nil_append, List.append_assoc]
      next =>
        rw [← ih]
        simp

/-- The pieces of a text with another text between them are the text with the separator replaced. -/
theorem replaceAll_eq_join (hne : sep ≠ []) (new s : List Char) :
    replaceAll sep new s = join new (splitOn sep s) := by
  rw [replaceAll, if_neg hne, splitOn, ← replaceFrom_eq_join]
  rfl

theorem replaceAll_singleton (a : Char) (new s : List Char) :
    replaceAll [a] new s = s.flatMap fun c => if c = a then new else [c] := by
  rw [replaceAll, if_neg (List.cons_ne_nil _ _)]
  induction s with
  | nil => rfl
  | cons c s ih =>
    have hfits : [a].isPrefixOf (c :: s) = (c == a) := by simp [List.isPrefixOf, BEq.comm]
    rw [replaceFrom, hfits, List.flatMap_cons]
    by_cases hc : c = a
    · simp [hc, ih]
    · simp [hc, ih]

theorem replaceAll_singleton_cons_self (a : Char) (new s : List Char) :
    replaceAll [a] new (a :: s) = new ++ replaceAll [a] new s := by
  rw [replaceAll_singleton, replaceAll_singleton, List.flatMap_cons, if_pos rfl]

theorem replaceAll_singleton_cons_of_ne {a c : Char} (h : c ≠ a) (new s : List Char) :
    replaceAll [a] new (c :: s) = c :: replaceAll [a] new s := by
  rw [replaceAll_singleton, replaceAll_singleton, List.flatMap_cons, if_neg h, List.singleton_append]

theorem replaceAll_singleton_append (a : Char) (new s t : List Char) :
    replaceAll [a] new (s ++ t) = replaceAll [a] new s ++ replaceAll [a] new t := by
  rw [replaceAll_singleton, replaceAll_singleton, replaceAll_singleton, List.flatMap_append]

/-! ### Blanks around a text -/

theorem trimLeft_append (s : List Char) : s.takeWhile isBlank ++ trimLeft s = s := List.takeWhile_append_dropWhile

theorem trimRight_append (s : List Char) : trimRight s ++ (s.reverse.takeWhile isBlank).reverse = s := by
  rw [trimRight, ← List.reverse_append, List.takeWhile_append_dropWhile, List.reverse_reverse]

end Docsmith.Text
