import Docsmith.Proofs.Text.Pieces
import Docsmith.Proofs.Text.Search

/-!
# Marks before a character

Putting a mark before every `a` is undone by replacing the mark with an `a` behind it by `a`, whatever marks the text
has already: a mark of its own before an `a` is followed by the mark that was put there, and not by the `a`
(`replaceAll_marked`).  Replacements of different characters can be made in either order
(`replaceAll_singleton_comm`), so marks before several characters can be taken away in any order.
-/

namespace Docsmith.Text

variable {mark a b : Char} {s : List Char}

/-- A text in which every `a` is marked does not start with `a`. -/
private theorem head?_marked_ne (h : mark ≠ a) (s : List Char) : (replaceAll [a] [mark, a] s).head? ≠ some a := by
  cases s with
  | nil => exact (Option.some_ne_none a).symm
  | cons c s =>
    by_cases hc : c = a
    · rw [hc, replaceAll_singleton_cons_self]
      exact fun hhead => h (Option.some.inj hhead)
    · rw [replaceAll_singleton_cons_of_ne hc]
      exact fun hhead => hc (Option.some.inj hhead)

/-- The marks that were put before a character can be taken away, also if the text had such marks before. -/
theorem replaceAll_marked (h : mark ≠ a) (s : List Char) :
    replaceAll [mark, a] [a] (replaceAll [a] [mark, a] s) = s := by
  induction s with
  | nil => rfl
  | cons c s ih =>
    by_cases hc : c = a
    · rw [hc, replaceAll_singleton_cons_self, replaceAll_self_append (List.cons_ne_nil _ _), ih]
      rfl
    · -- `c` may be a mark of the text, but what follows it is not an `a`
      have hstart : ¬ [mark, a] <+: c :: replaceAll [a] [mark, a] s := by
        intro hpair
        obtain ⟨rest, hrest⟩ := (List.cons_prefix_cons.1 hpair).2
        refine head?_marked_ne h s ?_
        rw [← hrest]
        rfl
      rw [replaceAll_singleton_cons_of_ne hc, replaceAll_cons_of_not_start (List.cons_ne_nil _ _) hstart, ih]

private theorem replaceAll_singleton_of_not_mem (h : a ∉ s) (new : List Char) : replaceAll [a] new s = s :=
  replaceAll_of_not_infix (fun hoccurs => h (hoccurs.subset (List.mem_singleton_self a))) new

/-- Two characters can be replaced in either order if neither is in what the other is replaced by. -/
theorem replaceAll_singleton_comm {as bs : List Char} (hab : a ≠ b) (has : b ∉ as) (hbs : a ∉ bs) (s : List Char) :
    replaceAll [b] bs (replaceAll [a] as s) = replaceAll [a] as (replaceAll [b] bs s) := by
  induction s with
  | nil => rfl
  | cons c s ih =>
    by_cases hca : c = a
    · rw [hca, replaceAll_singleton_cons_self, replaceAll_singleton_append, replaceAll_singleton_of_not_mem has,
        replaceAll_singleton_cons_of_ne hab, replaceAll_singleton_cons_self, ih]
    · by_cases hcb : c = b
      · rw [hcb, replaceAll_singleton_cons_of_ne hab.symm, replaceAll_singleton_cons_self,
          replaceAll_singleton_cons_self, replaceAll_singleton_append, replaceAll_singleton_of_not_mem hbs, ih]
      · rw [replaceAll_singleton_cons_of_ne hca, replaceAll_singleton_cons_of_ne hcb,
          replaceAll_singleton_cons_of_ne hcb, replaceAll_singleton_cons_of_ne hca, ih]

end Docsmith.Text
