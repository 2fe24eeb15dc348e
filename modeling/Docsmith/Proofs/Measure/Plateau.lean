import Docsmith.Proofs.Json.Numeral
import Docsmith.Proofs.Measure.Report

/-!
# When rounds stop improving

The scan of a sequence keeps its least value and the number of values after that was first reached (`Marks`), so the
last values were no improvement exactly if none of them is below all that came before (`isLong_iff_isStalled`).  The
last lines of a round end with the advice to stop for this reason exactly if that is so of the counts of the earlier
rounds and its own, whatever these are (`stop_without_improvement_iff`).
-/

namespace Docsmith.Measure

namespace Plateau

/-! ### The scan -/

/-- Whether the least value of a sequence and the number of values after its first occurrence are these. -/
def Marks (p : Plateau) (seq : List Int) : Prop :=
  ∃ before after, seq = before ++ p.best :: after ∧ (∀ m ∈ before, p.best < m) ∧ (∀ m ∈ after, p.best ≤ m) ∧
    p.since = after.length

variable {p : Plateau} {seq : List Int}

private theorem marks_singleton (n : Int) : Marks ⟨n, 0⟩ [n] :=
  ⟨[], [], rfl, fun _ h => absurd h List.not_mem_nil, fun _ h => absurd h List.not_mem_nil, rfl⟩

private theorem Marks.step (h : p.Marks seq) (n : Int) : (p.step n).Marks (seq ++ [n]) := by
  obtain ⟨before, after, rfl, hbefore, hafter, hsince⟩ := h
  unfold Plateau.step
  split
  next hn =>
    -- the new value is below all others, so everything moves in front of it
    refine ⟨before ++ p.best :: after, [], rfl, fun m hm => ?_, fun _ h => absurd h List.not_mem_nil, rfl⟩
    rcases List.mem_append.1 hm with hm | hm
    · exact Int.lt_trans hn (hbefore m hm)
    · rcases List.mem_cons.1 hm with rfl | hm
      · exact hn
      · exact Int.lt_of_lt_of_le hn (hafter m hm)
  next hn =>
    refine ⟨before, after ++ [n], by simp, hbefore, fun m hm => ?_, by simp [hsince]⟩
    rcases List.mem_append.1 hm with hm | hm
    · exact hafter m hm
    · rw [List.mem_singleton.1 hm]
      exact Int.not_lt.1 hn

private theorem Marks.foldl (h : p.Marks seq) (ns : List Int) : (ns.foldl Plateau.step p).Marks (seq ++ ns) := by
  induction ns generalizing p seq with
  | nil => rwa [List.append_nil]
  | cons n ns ih =>
    rw [List.foldl_cons, List.append_cons]
    exact ih (h.step n)

/-- The scan of a sequence that is not empty marks its least value. -/
private theorem exists_marks (hseq : seq ≠ []) : ∃ p, ofList? seq = some p ∧ p.Marks seq := by
  cases seq with
  | nil => exact absurd rfl hseq
  | cons n ns => exact ⟨_, rfl, (marks_singleton n).foldl ns⟩

private theorem Marks.min? (h : p.Marks seq) : seq.min? = some p.best := by
  obtain ⟨before, after, rfl, hbefore, hafter, -⟩ := h
  refine List.min?_eq_some_iff.2 ⟨List.mem_append_right _ List.mem_cons_self, fun m hm => ?_⟩
  rcases List.mem_append.1 hm with hm | hm
  · exact Int.le_of_lt (hbefore m hm)
  · rcases List.mem_cons.1 hm with rfl | hm
    · exact Int.le_refl _
    · exact hafter m hm

private theorem Marks.since_eq (h : p.Marks seq) : p.since = (seq.drop (seq.idxOf p.best + 1)).length := by
  obtain ⟨before, after, rfl, hbefore, -, hsince⟩ := h
  have hnot : p.best ∉ before := fun hmem => Int.lt_irrefl _ (hbefore _ hmem)
  rw [List.idxOf_append, if_neg hnot, List.idxOf_cons_self, hsince]
  simp

/-- Whether the last values of a sequence, as many as are waited for, are no improvement on those before them. -/
def IsStalled (seq : List Int) : Prop :=
  patience < seq.length ∧ ∀ least, (seq.take (seq.length - patience)).min? = some least →
    ∀ m ∈ seq.drop (seq.length - patience), ¬ m < least

instance (seq : List Int) : Decidable (IsStalled seq) :=
  inferInstanceAs (Decidable (patience < seq.length ∧ ∀ least ∈ (seq.take (seq.length - patience)).min?,
    ∀ m ∈ seq.drop (seq.length - patience), ¬ m < least))

private theorem Marks.isLong_iff_isStalled (h : p.Marks seq) : p.isLong = true ↔ IsStalled seq := by
  have hleast := (List.min?_eq_some_iff.1 h.min?).2
  obtain ⟨before, after, rfl, hbefore, -, hsince⟩ := h
  have hlength : (before ++ p.best :: after).length = before.length + after.length + 1 := by
    rw [List.length_append, List.length_cons, Nat.add_assoc]
  rw [isLong, decide_eq_true_eq, hsince, IsStalled, hlength]
  constructor
  · intro hlong
    have hmem : p.best ∈ (before ++ p.best :: after).take (before.length + after.length + 1 - patience) := by
      rw [List.append_cons, List.take_append, List.take_of_length_le]
      · exact List.mem_append_left _ (List.mem_append_right _ List.mem_cons_self)
      · rw [List.length_append, List.length_singleton]
        omega
    refine ⟨by omega, fun least hmin m hm => Int.not_lt.2 ?_⟩
    exact Int.le_trans ((List.min?_eq_some_iff.1 hmin).2 _ hmem) (hleast m (List.mem_of_mem_drop hm))
  · rintro ⟨hlong, hstalled⟩
    -- otherwise the least value is one of the last, and those before them are all above it
    refine Nat.not_lt.1 fun hshort => ?_
    have hle : before.length + after.length + 1 - patience ≤ before.length := by omega
    rw [List.take_append_of_le_length hle, List.drop_append_of_le_length hle] at hstalled
    cases hmin : (before.take (before.length + after.length + 1 - patience)).min? with
    | none =>
      have hempty := congrArg List.length (List.min?_eq_none_iff.1 hmin)
      rw [List.length_take_of_le hle, List.length_nil] at hempty
      omega
    | some least =>
      have hmem := List.mem_of_mem_take (List.min?_eq_some_iff.1 hmin).1
      exact hstalled least hmin p.best (List.mem_append_right _ List.mem_cons_self) (hbefore least hmem)

end Plateau

open Plateau

/-! ### The advice to stop -/

/-- Two texts are cut at the first place of a character in the same way. -/
private theorem append_cons_inj {α : Type} {c : α} {as bs x y : List α} (has : c ∉ as) (hbs : c ∉ bs)
    (h : as ++ c :: x = bs ++ c :: y) : as = bs ∧ x = y := by
  induction as generalizing bs with
  | nil =>
    cases bs with
    | nil => exact ⟨rfl, (List.cons.inj h).2⟩
    | cons b bs => exact absurd ((List.cons.inj h).1 ▸ List.mem_cons_self) hbs
  | cons a as ih =>
    cases bs with
    | nil => exact absurd ((List.cons.inj h).1 ▸ List.mem_cons_self) has
    | cons b bs =>
      obtain ⟨rfl, hrest⟩ := List.cons.inj h
      obtain ⟨rfl, rfl⟩ :=
        ih (fun hm => has (List.mem_cons_of_mem _ hm)) (fun hm => hbs (List.mem_cons_of_mem _ hm)) hrest
      exact ⟨rfl, rfl⟩

private theorem toDigits_inj {k l : Nat} (h : Nat.toDigits 10 k = Nat.toDigits 10 l) : k = l := by
  rw [← Json.digitsValue_toDigits k, h, Json.digitsValue_toDigits]

private theorem intText_inj {m n : Int} (h : Value.intText m = Value.intText n) : m = n := by
  have hsign : ∀ k l : Nat, '-' :: Nat.toDigits 10 k ≠ Nat.toDigits 10 l :=
    fun k l hkl => not_mem_toDigits (by decide) l (hkl ▸ List.mem_cons_self)
  unfold Value.intText at h
  split at h
  next hm =>
    split at h
    next hn =>
      have := toDigits_inj (List.cons.inj h).2
      omega
    next => exact absurd h (hsign _ _)
  next hm =>
    split at h
    next => exact absurd h.symm (hsign _ _)
    next hn =>
      have := toDigits_inj h
      omega

private theorem noImprovement_inj {k l : Nat} {m n : Int} (h : noImprovement k m = noImprovement l n) :
    k = l ∧ m = n := by
  have hcut : " rounds; best ".toList = ' ' :: "rounds; best ".toList := by decide
  delta noImprovement at h
  rw [hcut] at h
  have h := List.append_cancel_right h
  rw [List.append_assoc, List.append_assoc, List.append_assoc, List.append_assoc] at h
  obtain ⟨hk, hrest⟩ :=
    append_cons_inj (not_mem_toDigits (by decide) k) (not_mem_toDigits (by decide) l) (List.append_cancel_left h)
  exact ⟨toDigits_inj hk, intText_inj (List.append_cancel_left hrest)⟩

section

variable {r : Round} {past : List Int} {n : Nat}

private theorem stopReason?_eq (hn : r.repoTime.belowCount? = some n)
    (hcoverage : RepoTime.atLeast enoughCoverage r.coverage.percent = true) {p : Plateau}
    (hp : ofList? (past ++ [(n : Int)]) = some p) :
    stopReason? r past =
      if n = 0 then some "0 below".toList else if p.isLong then some (noImprovement p.since p.best) else none := by
  unfold stopReason?
  rw [hn]
  dsimp only
  rw [hcoverage, hp]
  rfl

private theorem stopReason?_eq_noImprovement_iff (hn : r.repoTime.belowCount? = some n)
    (hcoverage : RepoTime.atLeast enoughCoverage r.coverage.percent = true) {p : Plateau}
    (hp : ofList? (past ++ [(n : Int)]) = some p) {rounds : Nat} {best : Int} :
    stopReason? r past = some (noImprovement rounds best) ↔
      n ≠ 0 ∧ p.isLong = true ∧ rounds = p.since ∧ best = p.best := by
  rw [stopReason?_eq hn hcoverage hp]
  split
  next hzero =>
    have hne : "0 below".toList ≠ noImprovement rounds best := by
      delta noImprovement
      exact fun h => absurd (List.cons.inj h).1 (by decide)
    exact ⟨fun h => absurd (Option.some.inj h) hne, fun h => absurd hzero h.1⟩
  next hzero =>
    split
    next hlong =>
      refine ⟨fun h => ?_, fun ⟨_, _, hrounds, hbest⟩ => by rw [hrounds, hbest]⟩
      obtain ⟨hrounds, hbest⟩ := noImprovement_inj (Option.some.inj h)
      exact ⟨hzero, hlong, hrounds.symm, hbest.symm⟩
    next hlong => exact ⟨fun h => absurd h (by simp), fun h => absurd h.2.1 hlong⟩

end

private theorem advice_eq (reason : List Char) :
    advice reason = ("\n>>> STOP: repo_time converged ".toList ++ '(' :: reason) ++
    ("). Finalize microbench.py now. <<".toList ++ ['<', '\n']) := by
  delta advice
  simp

/-- Of reasons without brackets, a text that ends with the advice for one does not end with that for another. -/
private theorem eq_of_advice_suffix {reason other before : List Char} (hreason : '(' ∉ reason) (hother : '(' ∉ other)
    (h : advice reason <:+ before ++ advice other) : reason = other := by
  obtain ⟨text, htext⟩ := h
  rw [advice_eq, advice_eq, ← List.append_assoc text, ← List.append_assoc before] at htext
  have hcut := congrArg List.reverse (List.append_cancel_right htext)
  -- the reason is what stands after the last bracket, so the texts are read from their ends
  simp only [List.reverse_append, List.reverse_cons, List.append_assoc, List.singleton_append] at hcut
  have hsame := append_cons_inj (mt List.mem_reverse.1 hreason) (mt List.mem_reverse.1 hother) hcut
  exact List.reverse_inj.1 hsame.1

private theorem summary_ends (r : Round) (duration : Binary64) : "s]".toList <:+ summary r duration := by
  unfold summary
  exact List.suffix_append _ _

/-- A text that ends with the closing lines of a round ends with the advice to stop for lack of improvement only if
this is the reason that the round has. -/
private theorem advice_suffix_iff {r : Round} {past : List Int} {rounds : Nat} {best : Int} (before : List Char)
    (duration : Binary64) :
    advice (noImprovement rounds best) <:+ before ++ closing r past duration ↔
      stopReason? r past = some (noImprovement rounds best) := by
  rw [closing, ← List.append_assoc]
  cases hreason : stopReason? r past with
  | none =>
    refine ⟨fun hsuffix => ?_, fun h => by cases h⟩
    -- the text ends with the summary, and so with another sign than the advice
    obtain ⟨text, htext⟩ := summary_ends r duration
    have hclosing : [']', '\n'] <:+ before ++ ('\n' :: summary r duration ++ ['\n']) :=
      ⟨before ++ '\n' :: text ++ ['s'], by rw [← htext]; simp⟩
    have hadvice : ['<', '\n'] <:+ advice (noImprovement rounds best) := by
      rw [advice_eq, ← List.append_assoc]
      exact List.suffix_append _ _
    rw [Option.map_none, Option.getD_none, List.append_nil] at hsuffix
    have hsame := List.suffix_of_suffix_length_le (hadvice.trans hsuffix) hclosing (Nat.le_refl 2)
    exact absurd (hsame.eq_of_length rfl) (by decide)
  | some reason =>
    rw [Option.map_some, Option.getD_some]
    refine ⟨fun hsuffix => ?_, fun h => ?_⟩
    · rw [eq_of_advice_suffix (not_mem_noImprovement (by decide) rounds best)
        (not_mem_of_stopReason? (by decide) hreason) hsuffix]
    · rw [Option.some.inj h]
      exact List.suffix_append _ _

private theorem RepoTime.belowCount?_of_valid {t : RepoTime} (h : t.valid ≠ []) :
    t.belowCount? = some t.belowCount := by
  unfold RepoTime.belowCount?
  rw [if_neg (by simpa using h)]

/-- The scan of any counts `past` and one more gives the least of them and how many come after its first occurrence.
Hence the last lines of a round with some bench measured and enough coverage end with the advice to stop for lack of
improvement, naming a number of rounds and a best count, exactly if some bench is below the limit, the last three counts
were no improvement on those before them, the best count is the least of all, and the number of rounds is that of the
counts after its first occurrence. -/
theorem stop_without_improvement_iff :
    (∀ (past : List Int) (n : Int), ∃ p, ofList? (past ++ [n]) = some p ∧ (past ++ [n]).min? = some p.best ∧
      p.since = ((past ++ [n]).drop ((past ++ [n]).idxOf p.best + 1)).length) ∧
    ∀ (r : Round) (past seq : List Int) (duration : Binary64) (c : Console), r.repoTime.valid ≠ [] →
      RepoTime.atLeast enoughCoverage r.coverage.percent = true → seq = past ++ [(r.repoTime.belowCount : Int)] →
      ∃ c', (conclude r past duration).apply c = (.ok (), c') ∧ ∀ (rounds : Nat) (best : Int),
        advice (noImprovement rounds best) <:+ c'.out ↔
          r.repoTime.belowCount ≠ 0 ∧ IsStalled seq ∧ seq.min? = some best ∧
            rounds = (seq.drop (seq.idxOf best + 1)).length := by
  constructor
  · intro past n
    obtain ⟨p, hp, hmarks⟩ := exists_marks (List.concat_ne_nil n past)
    exact ⟨p, hp, hmarks.min?, hmarks.since_eq⟩
  · rintro r past _ duration c hmeasured hcoverage rfl
    refine ⟨_, conclude_apply r past duration c, fun rounds best => ?_⟩
    obtain ⟨p, hp, hmarks⟩ := exists_marks (List.concat_ne_nil (r.repoTime.belowCount : Int) past)
    rw [advice_suffix_iff, stopReason?_eq_noImprovement_iff (RepoTime.belowCount?_of_valid hmeasured) hcoverage hp,
      ← hmarks.isLong_iff_isStalled, hmarks.min?, hmarks.since_eq]
    constructor
    · rintro ⟨hsome, hlong, rfl, rfl⟩
      exact ⟨hsome, hlong, rfl, rfl⟩
    · rintro ⟨hsome, hlong, hbest, rfl⟩
      cases hbest
      exact ⟨hsome, hlong, rfl, rfl⟩

namespace Sample

/-- A round with one bench below the limit. -/
def slow : Round :=
  ⟨6, .int 0, ⟨.ofDecimal false 80 0, 8, 10, .record [], 0, .record []⟩, 1, .int 1,
    ⟨[("a", .ofDecimal false 30 0)], []⟩, []⟩

end Sample

/-- One bench is below the limit as in the second of the rounds before, and so the round advises to stop after four
rounds without improvement. -/
theorem sample_stop_without_improvement_iff :
    Sample.slow.repoTime.valid ≠ [] ∧ RepoTime.atLeast enoughCoverage Sample.slow.coverage.percent = true ∧
      (∃ p, ofList? [2, 1, 3, 1, 2, 1] = some p ∧ p.best = 1 ∧ p.since = 4) ∧
      ∃ c, (conclude Sample.slow [2, 1, 3, 1, 2] (.zero false)).apply .empty = (.ok (), c) ∧
        advice "no improvement in 4 rounds; best 1 below".toList <:+ c.out := by
  have hmeasured : Sample.slow.repoTime.valid ≠ [] := fun h => absurd (congrArg List.isEmpty h) (by decide +kernel)
  have hcoverage : RepoTime.atLeast enoughCoverage Sample.slow.coverage.percent = true := by decide +kernel
  obtain ⟨p, hp, hbest, hsince⟩ := stop_without_improvement_iff.1 [2, 1, 3, 1, 2] 1
  have hone : p.best = 1 := Option.some.inj (hbest.symm.trans (by decide))
  rw [hone] at hsince
  obtain ⟨c, hc, hstop⟩ := stop_without_improvement_iff.2 Sample.slow [2, 1, 3, 1, 2] [2, 1, 3, 1, 2, 1] (.zero false)
    .empty hmeasured hcoverage (by decide +kernel)
  exact ⟨hmeasured, hcoverage, ⟨p, hp, hone, hsince.trans (by decide)⟩, c, hc,
    (hstop 4 1).2 ⟨by decide +kernel, by decide +kernel, by decide +kernel, by decide +kernel⟩⟩

end Docsmith.Measure
