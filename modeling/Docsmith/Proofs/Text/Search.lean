import Docsmith.Text.Search

/-!
# Taking a part away from a text

Replacing a part by nothing removes every occurrence of it, so the text gets shorter exactly if the part occurs
(`length_removed_lt`).  Of a text that starts with the part the rest remains exactly if the part does not occur in the
rest again (`replaceAll_self_append_eq_iff`).
-/

namespace Docsmith.Text

variable {old s : List Char}

theorem occursIn_iff {part s : List Char} : occursIn part s = true ↔ part <:+: s := by
  induction s with
  | nil => simp [occursIn]
  | cons c s ih => simp [occursIn, ih, List.infix_cons_iff]

/-- The characters of an occurrence are passed over. -/
private theorem replaceFrom_append (old new passed rest : List Char) :
    replaceFrom old new passed.length (passed ++ rest) = replaceFrom old new 0 rest := by
  induction passed with
  | nil => rfl
  | cons c passed ih => simp [replaceFrom, ih]

theorem replaceAll_self_append (hne : old ≠ []) (new rest : List Char) :
    replaceAll old new (old ++ rest) = new ++ replaceAll old new rest := by
  obtain ⟨c, tail, rfl⟩ := List.exists_cons_of_ne_nil hne
  have hprefix : (c :: tail).isPrefixOf (c :: (tail ++ rest)) = true :=
    List.isPrefixOf_iff_prefix.2 (List.prefix_append (c :: tail) rest)
  have hpassed := replaceFrom_append (c :: tail) new tail rest
  simp only [replaceAll, if_neg hne, List.cons_append, replaceFrom, hprefix, if_true, List.length_cons,
    Nat.add_sub_cancel, hpassed]

theorem replaceAll_cons_of_not_start {c : Char} (hne : old ≠ []) (h : ¬ old <+: c :: s) (new : List Char) :
    replaceAll old new (c :: s) = c :: replaceAll old new s := by
  rw [replaceAll, replaceAll, if_neg hne, if_neg hne, replaceFrom, if_neg (mt List.isPrefixOf_iff_prefix.1 h)]

theorem replaceAll_of_not_infix (h : ¬ old <:+: s) (new : List Char) : replaceAll old new s = s := by
  have hne : old ≠ [] := fun hnil => h (hnil ▸ List.nil_infix)
  induction s with
  | nil => rw [replaceAll, if_neg hne, replaceFrom]
  | cons c s ih =>
    obtain ⟨hhead, htail⟩ := not_or.1 (mt List.infix_cons_iff.2 h)
    rw [replaceAll_cons_of_not_start hne hhead, ih htail]

private theorem replaceFrom_sublist (old : List Char) (k : Nat) (s : List Char) :
    (replaceFrom old [] k s).Sublist s := by
  induction s generalizing k with
  | nil => simp [replaceFrom]
  | cons c s ih =>
    cases k with
    | succ k => exact (ih k).cons c
    | zero =>
      rw [replaceFrom]
      split
      next => exact (ih _).cons c
      next => exact (ih 0).cons_cons c

/-- What remains of a text stands in it in the same order. -/
theorem removed_sublist (old s : List Char) : (replaceAll old [] s).Sublist s := by
  rw [replaceAll]
  split
  next => simp
  next => exact replaceFrom_sublist old 0 s

/-- An occurrence that is removed makes the text shorter. -/
theorem length_removed_lt (hne : old ≠ []) (h : old <:+: s) : (replaceAll old [] s).length < s.length := by
  rw [replaceAll, if_neg hne]
  induction s with
  | nil => exact absurd (List.infix_nil.1 h) hne
  | cons c s ih =>
    rw [replaceFrom]
    split
    next =>
      have := (replaceFrom_sublist old (old.length - 1) s).length_le
      rw [List.nil_append, List.length_cons]
      omega
    next hhead =>
      have htail := (List.infix_cons_iff.1 h).resolve_left (mt List.isPrefixOf_iff_prefix.2 hhead)
      have := ih htail
      rw [List.length_cons, List.length_cons]
      omega

/-- Of a text that starts with the part, the rest remains if the part does not occur again, and only then. -/
theorem replaceAll_self_append_eq_iff (hne : old ≠ []) (rest : List Char) :
    replaceAll old [] (old ++ rest) = rest ↔ ¬ old <:+: rest := by
  rw [replaceAll_self_append hne, List.nil_append]
  constructor
  · intro heq hoccurs
    have := length_removed_lt hne hoccurs
    rw [heq] at this
    exact Nat.lt_irrefl _ this
  · intro hnot
    exact replaceAll_of_not_infix hnot []

end Docsmith.Text
