import Docsmith.Docs.Argument
import Docsmith.Proofs.Text.Trim

/-!
# The entry of a line

A line is cut at the last place of a mark that fits (`cutLast_eq_some_iff`).  A mark that begins with a character that
does not come again in it cannot overlap with itself, so "the last" means that what follows has no further place of it.
The entry of a line is the one with no `): ` in its description and no ` (` in its type, other than at their ends
(`Argument.ofLine?_eq_some_iff`); every line that is written as an entry has one (`Argument.exists_ofLine?`).
-/

namespace Docsmith.Docs

/-! ### The last mark of a line -/

section Cut

variable {c : Char} {m : List Char} {fits : List Char → List Char → Bool} {before s x y : List Char}

/-- A mark whose first character does not come again in it does not overlap with itself. -/
private theorem mark_append_eq (hc : c ∉ m) {z y y' : List Char} (h : c :: m ++ y = z ++ c :: m ++ y') :
    (z = [] ∧ y = y') ∨ ∃ u, z = c :: m ++ u ∧ y = u ++ c :: m ++ y' := by
  cases z with
  | nil => exact .inl ⟨rfl, by simpa using h⟩
  | cons d z =>
    obtain ⟨rfl, hrest⟩ : c = d ∧ m ++ y = z ++ (c :: m ++ y') := by simpa using h
    rcases List.append_eq_append_iff.1 hrest with ⟨u, rfl, hy⟩ | ⟨w, rfl, hw⟩
    · exact .inr ⟨u, rfl, by simpa using hy⟩
    · cases w with
      | nil => exact .inr ⟨[], by simp, by simpa using hw.symm⟩
      | cons d w =>
        obtain ⟨rfl, -⟩ := List.cons.inj hw
        exact absurd (by simp) hc

/-- Two places of such a mark are the same, or one comes after the other. -/
private theorem append_mark_eq (hc : c ∉ m) {x y x' y' : List Char} (h : x ++ c :: m ++ y = x' ++ c :: m ++ y') :
    (x = x' ∧ y = y') ∨ (∃ u, x' = x ++ c :: m ++ u ∧ y = u ++ c :: m ++ y') ∨
      ∃ u, x = x' ++ c :: m ++ u ∧ y' = u ++ c :: m ++ y := by
  rw [List.append_assoc, List.append_assoc] at h
  rcases List.append_eq_append_iff.1 h with ⟨z, rfl, hz⟩ | ⟨z, rfl, hz⟩
  · rcases mark_append_eq hc (hz.trans (List.append_assoc _ _ _).symm) with ⟨rfl, rfl⟩ | ⟨u, rfl, rfl⟩
    · exact .inl ⟨(List.append_nil x).symm, rfl⟩
    · exact .inr (.inl ⟨u, (List.append_assoc _ _ _).symm, rfl⟩)
  · rcases mark_append_eq hc (hz.trans (List.append_assoc _ _ _).symm) with ⟨rfl, rfl⟩ | ⟨u, rfl, rfl⟩
    · exact .inl ⟨List.append_nil x', rfl⟩
    · exact .inr (.inr ⟨u, (List.append_assoc _ _ _).symm, rfl⟩)

private theorem cutLast_cons (mark : List Char) (d : Char) (s : List Char) :
    cutLast mark fits before (d :: s) =
      (cutLast mark fits (d :: before) s).or
        (if mark.isPrefixOf (d :: s) && fits before.reverse ((d :: s).drop mark.length) then
          some (before.reverse, (d :: s).drop mark.length) else none) := by
  rw [cutLast]
  cases cutLast mark fits (d :: before) s <;> rfl

/-- There is no cut exactly if no place of the mark fits. -/
private theorem cutLast_eq_none_iff {mark : List Char} (hne : mark ≠ []) :
    cutLast mark fits before s = none ↔ ∀ x y, s = x ++ mark ++ y → fits (before.reverse ++ x) y = false := by
  induction s generalizing before with
  | nil =>
    refine iff_of_true rfl fun x y h => ?_
    simp [hne] at h
  | cons d s ih =>
    rw [cutLast_cons, Option.or_eq_none_iff, ih, ite_eq_right_iff]
    constructor
    · rintro ⟨hlater, hhere⟩ x y h
      cases x with
      | nil =>
        rw [List.nil_append] at h
        rw [h, List.drop_left, Bool.and_eq_true, List.isPrefixOf_iff_prefix] at hhere
        rw [List.append_nil]
        refine Bool.eq_false_iff.2 fun hfits => ?_
        cases hhere ⟨List.prefix_append _ _, hfits⟩
      | cons e x =>
        obtain ⟨rfl, rfl⟩ := List.cons.inj h
        simpa using hlater x y rfl
    · intro h
      refine ⟨fun x y hxy => ?_, fun hhere => ?_⟩
      · simpa using h (d :: x) y (by simp [hxy])
      · obtain ⟨hstart, hfits⟩ := Bool.and_eq_true_iff.1 hhere
        obtain ⟨y, hy⟩ := List.isPrefixOf_iff_prefix.1 hstart
        rw [← hy, List.drop_left] at hfits
        have hnot := h [] y hy.symm
        rw [List.append_nil, hfits] at hnot
        cases hnot

/-- A cut is made at a place of the mark that fits and has no such place behind it. -/
theorem cutLast_spec {mark : List Char} (hne : mark ≠ []) (h : cutLast mark fits before s = some (x, y)) :
    (∃ z, x = before.reverse ++ z ∧ s = z ++ mark ++ y) ∧ fits x y = true ∧
      ∀ u v, y = u ++ mark ++ v → fits (x ++ mark ++ u) v = false := by
  induction s generalizing before with
  | nil => cases h
  | cons d s ih =>
    rw [cutLast_cons, Option.or_eq_some_iff] at h
    rcases h with hlater | ⟨hnone, hhere⟩
    · obtain ⟨⟨z, rfl, rfl⟩, hfits⟩ := ih hlater
      exact ⟨⟨d :: z, by simp, rfl⟩, hfits⟩
    · split at hhere
      next hcut =>
        obtain ⟨hstart, hfits⟩ := Bool.and_eq_true_iff.1 hcut
        obtain ⟨y', hy⟩ := List.isPrefixOf_iff_prefix.1 hstart
        rw [← hy, List.drop_left] at hfits hhere
        cases hhere
        refine ⟨⟨[], by simp, by simp [hy]⟩, hfits, fun u v huv => ?_⟩
        -- the places behind are those that were tried before
        obtain ⟨e, tail, rfl⟩ := List.exists_cons_of_ne_nil hne
        obtain ⟨rfl, rfl⟩ := List.cons.inj hy
        have hnot := (cutLast_eq_none_iff hne).1 hnone (tail ++ u) v (by simp [huv])
        simpa using hnot
      next => cases hhere

private theorem cutLast_eq_some_iff (hc : c ∉ m) :
    cutLast (c :: m) fits [] s = some (x, y) ↔
      s = x ++ c :: m ++ y ∧ fits x y = true ∧ ∀ u v, y = u ++ c :: m ++ v → fits (x ++ c :: m ++ u) v = false := by
  have hne : c :: m ≠ [] := List.cons_ne_nil c m
  constructor
  · intro h
    obtain ⟨⟨z, rfl, hs⟩, hrest⟩ := cutLast_spec hne h
    exact ⟨hs, hrest⟩
  · rintro ⟨hs, hfits, hlast⟩
    cases hcut : cutLast (c :: m) fits [] s with
    | none =>
      have hnot := (cutLast_eq_none_iff hne).1 hcut x y hs
      rw [List.reverse_nil, List.nil_append, hfits] at hnot
      cases hnot
    | some cut =>
      obtain ⟨x', y'⟩ := cut
      obtain ⟨⟨z, rfl, hs'⟩, hfits', hlast'⟩ := cutLast_spec hne hcut
      -- of two different places the later one would count
      rcases append_mark_eq hc (hs.symm.trans hs') with ⟨rfl, rfl⟩ | ⟨u, rfl, rfl⟩ | ⟨u, rfl, rfl⟩
      · rfl
      · rw [hlast u y' rfl] at hfits'
        cases hfits'
      · rw [hlast' u y rfl] at hfits
        cases hfits

end Cut

/-! ### The entry of a line -/

/-- A text has a mark at most at its end. -/
def OnlyAtEnd (mark s : List Char) : Prop := ∀ u v, s = u ++ mark ++ v → v = []

theorem OnlyAtEnd.of_absent {mark s : List Char} (h : ¬ mark <:+: s) : OnlyAtEnd mark s :=
  fun u v hs => absurd ⟨u, v, hs.symm⟩ h

namespace Argument

/-- The line that an entry is written as. -/
def line (a : Argument) : List Char := a.name ++ " (".toList ++ a.type ++ "): ".toList ++ a.description

/-- An entry has a name, a type and a description. -/
structure Complete (a : Argument) : Prop where
  name : a.name ≠ []
  type : a.type ≠ []
  description : a.description ≠ []

/-- A line is cut at the last `): ` with a text after it, and what stands before at the last ` (` with a text on both
sides. -/
theorem ofLine?_eq_some_iff {s : List Char} {a : Argument} :
    ofLine? s = some a ↔
      s = a.line ∧ a.Complete ∧ OnlyAtEnd "): ".toList a.description ∧ OnlyAtEnd " (".toList a.type := by
  have hclose : ')' ∉ [':', ' '] := by decide
  have hopen : ' ' ∉ ['('] := by decide
  rw [ofLine?]
  constructor
  · intro h
    obtain ⟨⟨head, description⟩, hhead, h⟩ := Option.bind_eq_some_iff.1 h
    obtain ⟨⟨name, type⟩, hname, h⟩ := Option.bind_eq_some_iff.1 h
    cases h
    obtain ⟨rfl, hdescription, hlast⟩ := (cutLast_eq_some_iff hclose).1 hhead
    obtain ⟨rfl, hparts, hlast'⟩ := (cutLast_eq_some_iff hopen).1 hname
    obtain ⟨hname, htype⟩ : name ≠ [] ∧ type ≠ [] := by simpa using hparts
    refine ⟨rfl, ⟨hname, htype, by simpa using hdescription⟩, fun u v h => ?_, fun u v h => ?_⟩
    · simpa using hlast u v h
    · simpa using hlast' u v h
  · rintro ⟨rfl, hcomplete, hdescription, htype⟩
    have hhead : cutLast "): ".toList (fun _ after => !after.isEmpty) [] a.line =
        some (a.name ++ " (".toList ++ a.type, a.description) :=
      (cutLast_eq_some_iff hclose).2
        ⟨rfl, by simpa using hcomplete.description, fun u v h => by simpa using hdescription u v h⟩
    have hname : cutLast " (".toList (fun before after => !before.isEmpty && !after.isEmpty) []
        (a.name ++ " (".toList ++ a.type) = some (a.name, a.type) :=
      (cutLast_eq_some_iff hopen).2
        ⟨rfl, by simpa using ⟨hcomplete.name, hcomplete.type⟩, fun u v h => by simpa using htype u v h⟩
    rw [hhead]
    simp only [Option.bind_eq_bind, Option.bind_some]
    rw [hname]
    rfl

/-- A line that is written as an entry has an entry, though maybe another. -/
theorem exists_ofLine? {a : Argument} (h : a.Complete) : ∃ b, ofLine? a.line = some b := by
  have hclose : ')' ∉ [':', ' '] := by decide
  cases hhead : cutLast "): ".toList (fun _ after => !after.isEmpty) [] a.line with
  | none =>
    have hnot := (cutLast_eq_none_iff (by decide)).1 hhead _ _ rfl
    exact absurd hnot (by simpa using h.description)
  | some cut =>
    obtain ⟨x, y⟩ := cut
    obtain ⟨hline, -, hlast⟩ := (cutLast_eq_some_iff hclose).1 hhead
    -- the cut is not made before the one that the entry itself has
    obtain ⟨w, rfl⟩ : ∃ w, x = a.name ++ " (".toList ++ (a.type ++ w) := by
      rcases append_mark_eq hclose hline with ⟨rfl, -⟩ | ⟨u, rfl, -⟩ | ⟨u, -, rfl⟩
      · exact ⟨[], by simp⟩
      · exact ⟨"): ".toList ++ u, by simp⟩
      · exact absurd (hlast u a.description rfl) (by simpa using h.description)
    cases hname : cutLast " (".toList (fun before after => !before.isEmpty && !after.isEmpty) []
        (a.name ++ " (".toList ++ (a.type ++ w)) with
    | none =>
      have hnot := (cutLast_eq_none_iff (by decide)).1 hname _ _ rfl
      exact absurd hnot (by simp [h.name, h.type])
    | some cut =>
      refine ⟨⟨cut.1, cut.2, y⟩, ?_⟩
      rw [ofLine?, hhead]
      simp only [Option.bind_eq_bind, Option.bind_some]
      rw [hname]
      rfl

/-- A line without `): ` has no entry. -/
theorem ofLine?_eq_none {s : List Char} (h : ¬ "): ".toList <:+: s) : ofLine? s = none := by
  cases hs : ofLine? s with
  | none => rfl
  | some a =>
    obtain ⟨rfl, -⟩ := ofLine?_eq_some_iff.1 hs
    exact absurd ⟨_, _, rfl⟩ h

/-- Where the description has a mark of its own with a text after it, only what follows its last mark is left of it. -/
theorem exists_description_eq {a b : Argument} (h : ofLine? a.line = some b) (hne : a.description ≠ [])
    (hmark : ¬ OnlyAtEnd "): ".toList a.description) : ∃ w, a.description = w ++ "): ".toList ++ b.description := by
  have hclose : ')' ∉ [':', ' '] := by decide
  obtain ⟨hline, -, hlast, -⟩ := ofLine?_eq_some_iff.1 h
  rcases append_mark_eq hclose hline with ⟨-, hsame⟩ | ⟨w, -, hw⟩ | ⟨w, -, hw⟩
  · exact absurd (hsame ▸ hlast) hmark
  · exact ⟨w, hw⟩
  · exact absurd (hlast w a.description hw) hne

/-- The list items of an argument: its name, its type and what is said about it. -/
def listItems (name type text : List Char) : List Char :=
  "\n- ".toList ++ name ++ "\n  - Type: ".toList ++ type ++ "\n  - ".toList ++ text

theorem splitOn_listItems {name type text : List Char} (hname : '\n' ∉ name) (htype : '\n' ∉ type)
    (htext : '\n' ∉ text) :
    Text.splitOn ['\n'] (listItems name type text) =
      [[], "- ".toList ++ name, "  - Type: ".toList ++ type, "  - ".toList ++ text] := by
  have hitems : listItems name type text =
      [] ++ '\n' :: ("- ".toList ++ name ++
        '\n' :: ("  - Type: ".toList ++ type ++ '\n' :: ("  - ".toList ++ text))) := by
    delta listItems
    simp
  rw [hitems, Text.splitOn_append (by simp), Text.splitOn_append (by simpa using hname),
    Text.splitOn_append (by simpa using htype), Text.splitOn_of_not_mem (by simpa using htext)]

end Argument

end Docsmith.Docs
