import Docsmith.Proofs.Battle.Speed

/-!
# The formulas of stats

A stat is computed with two quotients, a quarter of the effort and a hundredth of the product with the level, each of
them rounded to binary64 and then down.  As long as the dividends are below `2 ^ 53`, that is whole division
(`Value.floor_int_div_int`), and the stat and the hit points are what their formulas say in natural numbers
(`stats_exact`).
-/

namespace Docsmith.Battle

variable {base effort level : ℕ}

private theorem atLevel_exact {n : ℕ} (h : n * level < 2 ^ 53) :
    atLevel n (.int level) = .ok ((n * level / 100 : ℕ) : ℤ) := by
  obtain ⟨q, hdiv, hfloor⟩ := Value.floor_int_div_int h (n := 100) (by norm_num) (by norm_num)
  have hproduct : (Value.int n).mul (.int level) = .ok (.int ((n * level : ℕ) : ℤ)) := rfl
  rw [Nat.cast_ofNat] at hdiv
  simp only [atLevel, hproduct, hdiv, hfloor, Outcome.ok_bind]

private theorem scaledStat_exact (heffort : effort < 2 ^ 53) (h : (2 * base + 31 + effort / 4) * level < 2 ^ 53) :
    scaledStat (.int base) (.int effort) (.int level) =
      .ok (((2 * base + 31 + effort / 4) * level / 100 : ℕ) : ℤ) := by
  rw [scaledStat_eq_atLevel rfl heffort, atLevel_exact h]

/-- The formulas in natural numbers. -/
theorem stats_exact (heffort : effort < 2 ^ 53) (h : (2 * base + 31 + effort / 4) * level < 2 ^ 53) :
    stat (.int base) (.int effort) (.int level) =
        .ok (.int (((2 * base + 31 + effort / 4) * level / 100 + 5 : ℕ) : ℤ)) ∧
      hitPoints (.int base) (.int effort) (.int level) =
        .ok (.int (((2 * base + 31 + effort / 4) * level / 100 + level + 10 : ℕ) : ℤ)) := by
  have hscaled := scaledStat_exact heffort h
  constructor
  · rw [stat, hscaled]
    rfl
  · have hrest : (Value.int level).add (.int 10) = .ok (.int (level + 10)) := rfl
    rw [hitPoints, hscaled, Outcome.ok_bind, hrest, Outcome.ok_bind]
    exact congrArg (fun n => Except.ok (Value.int n)) (add_assoc _ _ _).symm

/-- A product just below the bound that leaves 99 hundredths. -/
theorem stats_exact_near_bound :
    (2 * 643371375338582 + 31 + 250 / 4) * 7 < 2 ^ 53 ∧ (2 * 643371375338582 + 31 + 250 / 4) * 7 % 100 = 99 ∧
      stat (.int (643371375338582 : ℕ)) (.int (250 : ℕ)) (.int (7 : ℕ)) =
          .ok (.int (((2 * 643371375338582 + 31 + 250 / 4) * 7 / 100 + 5 : ℕ) : ℤ)) ∧
        hitPoints (.int (643371375338582 : ℕ)) (.int (250 : ℕ)) (.int (7 : ℕ)) =
          .ok (.int (((2 * 643371375338582 + 31 + 250 / 4) * 7 / 100 + 7 + 10 : ℕ) : ℤ)) :=
  ⟨by norm_num, by norm_num, stats_exact (by norm_num) (by norm_num)⟩

/-- Beyond the bound a quotient just below a whole number is rounded up to it. -/
example : (2 * 7036874417766434 + 31) * 1 / 100 + 5 = 140737488355333 ∧
    (stat (.int 7036874417766434) (.int 0) (.int 1)).toOption.bind Value.int? = some 140737488355334 := by
  decide +kernel

end Docsmith.Battle
