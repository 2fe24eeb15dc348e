import Docsmith.Proofs.Battle.Nearest
import Docsmith.Proofs.Value.Error

/-!
# The growth of estimates

Between the entries of the table a damage value is estimated from the nearest entry, 0.095 a point, so that it could
jump wherever the nearest entry changes.  But all entries but the last lie so close to one line that the estimates
follow it too (`base_line`), up to the base stat 252, the last one that is nearer to another entry.  From 253 on they
follow a line of the same slope through the last entry (`base_last`), which is ten times too high.  So an estimate grows
with the base stat, and by at most 0.2 a point except from 252 to 253 (`growth_even_iff`).
-/

namespace Docsmith.Battle.DamageTable

open Binary64

/-! ### Reading a table -/

section reading

variable {table : DamageTable} {n k : ℤ} {v : Value}

private theorem same_int (m n : ℤ) : (Value.Number.int m).same (.int n) = decide (m = n) := by
  rw [Value.Number.same, Value.Number.compare?, Bool.eq_iff_iff]
  simp

private theorem mem_of_value? (h : table.value? (.int n) = some v) : (n, v) ∈ table.entries := by
  obtain ⟨e, he, rfl⟩ := Option.map_eq_some_iff.1 h
  have hkey := List.find?_some he
  rw [same_int, decide_eq_true_iff] at hkey
  subst hkey
  exact List.mem_of_find?_eq_some he

private theorem exists_value? (h : n ∈ table.keys) : ∃ v, table.value? (.int n) = some v := by
  obtain ⟨e, he, rfl⟩ := List.mem_map.1 h
  rw [value?, ← Option.isSome_iff_exists, Option.isSome_map, List.find?_isSome]
  exact ⟨e, he, by rw [same_int, decide_eq_true rfl]⟩

private theorem mem_keys_of_value? (h : table.value? (.int n) = some v) : n ∈ table.keys :=
  List.mem_map.2 ⟨_, mem_of_value? h, rfl⟩

/-- The damage value at a distance from an entry. -/
def interpolated (v : Value) (d : ℤ) : Outcome Value := do
  v.add (← (← Value.mul (.decimal 19 2) (.int d)).div (.int 2))

/-- A damage value is read from the table, or estimated from the entry of the nearest base stat. -/
theorem base_of_isNearest (hsorted : table.keys.Pairwise (· < ·)) (hnearest : IsNearest table.keys n k) :
    ∃ v, (k, v) ∈ table.entries ∧
      (n = k ∧ table.base (.int n) = .ok v ∨ table.base (.int n) = interpolated v (n - k)) := by
  have hnumber : (Value.int n).toNumber = .ok (.int n) := rfl
  obtain ⟨v, hv⟩ := exists_value? hnearest.mem
  refine ⟨v, mem_of_value? hv, ?_⟩
  rw [base, hnumber, Outcome.ok_bind]
  cases hread : table.value? (.int n) with
  | some w =>
    obtain rfl := (isNearest_self (mem_keys_of_value? hread)).unique hnearest
    cases hread.symm.trans hv
    exact .inl ⟨rfl, rfl⟩
  | none =>
    right
    simp only [closest_of_isNearest hsorted hnearest, hv, Outcome.ok_bind, interpolated]

end reading

/-! ### Errors -/

section errors

variable {n k d : ℤ} {v : Value} {p : ℚ}

/-- Estimating from an entry is exact up to `2 ^ -12`. -/
private theorem interpolated_close (hv : v.amount? = some p) (hp : |p| ≤ 2 ^ 20) (hd : |(d : ℚ)| ≤ 2 ^ 41) :
    ∃ w r, interpolated v d = .ok w ∧ w.amount? = some r ∧ |r - (p + 19 / 200 * d)| ≤ 1 / 2 ^ 12 := by
  obtain ⟨c, hc, hconstant⟩ := close_ofDecimal 19 2 (j := 0) (by norm_num) (by norm_num)
  have hslope : |c * d - 19 / 100 * d| ≤ 1 / 2 ^ 13 := by
    rw [← sub_mul, abs_mul]
    calc |c - 19 / 100| * |(d : ℚ)| ≤ 1 / 2 ^ 54 * 2 ^ 41 :=
          mul_le_mul (by norm_num at hconstant ⊢; exact hconstant) hd (abs_nonneg _) (by norm_num)
      _ = 1 / 2 ^ 13 := by norm_num
  rw [abs_le] at hp hd hslope
  -- each step is rounded once, to a number of less than `2 ^ 39` in size
  obtain ⟨x, hmul, product, hx, hproduct⟩ := Value.close_float_mul_int (j := 39) hc (n := d)
    (by rw [abs_le]; constructor <;> linarith) (by rw [abs_lt]; constructor <;> linarith) (by norm_num)
  rw [abs_le] at hproduct
  obtain ⟨y, hdiv, half, hy, hhalf⟩ := Value.close_float_div_int (j := 39) hx (d := 2) (by norm_num) (by norm_num)
    (by rw [abs_lt]; push_cast; constructor <;> linarith) (by norm_num)
  rw [abs_le] at hhalf
  push_cast at hhalf
  obtain ⟨z, hadd, r, hz, hr⟩ := Value.close_add_float (j := 39) hv (by rw [abs_le]; constructor <;> linarith) hy
    (by rw [abs_lt]; constructor <;> linarith) (by norm_num)
  rw [abs_le] at hr
  refine ⟨.float z, r, ?_, hz, ?_⟩
  · rw [interpolated, Value.decimal, hmul, Outcome.ok_bind]
    exact (congrArg (· >>= v.add) hdiv).trans hadd
  · rw [abs_le]
    constructor <;> linarith

private theorem rounded_close (places : ℕ) (hv : v.amount? = some p) (hp : |p| + 1 ≤ 2 ^ 40) :
    ∃ w r, rounded places v = .ok w ∧ w.amount? = some r ∧ |r - p| ≤ 1 / (2 * 10 ^ places) + 1 / 2 ^ 14 := by
  obtain ⟨m, hm, hmp⟩ := Option.bind_eq_some_iff.1 hv
  have hrounded : rounded places v = .ok (.ofNumber (m.roundPlaces places)) := by
    simp only [rounded, Value.toNumber, hm, Outcome.ok_bind]
  cases m with
  | int n =>
    refine ⟨.int n, p, hrounded, hmp, ?_⟩
    rw [sub_self, abs_zero]
    positivity
  | float x =>
    obtain ⟨g, hg, r, hr, hclose⟩ := exists_close_roundPlaces places hmp hp (by norm_num)
    refine ⟨.float (x.roundPlaces places), r, hrounded, hr, ?_⟩
    have hsize : (2 ^ 40 / 2 ^ 54 : ℚ) = 1 / 2 ^ 14 := by norm_num
    rw [hsize] at hclose
    linarith [abs_sub_le r g p]

/-- If the entry of the nearest base stat is right up to an error, so are the estimates from it. -/
private theorem base_close {table : DamageTable} {q δ : ℚ} (hsorted : table.keys.Pairwise (· < ·))
    (hnearest : IsNearest table.keys n k) (hd : |((n - k : ℤ) : ℚ)| ≤ 2 ^ 41) (hq : |q| + δ ≤ 2 ^ 20)
    (hentry : ∀ v, (k, v) ∈ table.entries → ∃ p, v.amount? = some p ∧ |p - q| ≤ δ) :
    ∃ w r, table.base (.int n) = .ok w ∧ w.amount? = some r ∧ |r - (q + 19 / 200 * (n - k))| ≤ δ + 1 / 2 ^ 12 := by
  obtain ⟨v, hmem, hbase⟩ := base_of_isNearest hsorted hnearest
  obtain ⟨p, hp, hclose⟩ := hentry v hmem
  rcases hbase with ⟨rfl, hread⟩ | hestimated
  · refine ⟨v, p, hread, hp, ?_⟩
    rw [sub_self, mul_zero, add_zero]
    linarith
  · have hsize : |p| ≤ 2 ^ 20 := by linarith [abs_sub_abs_le_abs_sub p q]
    obtain ⟨w, r, hw, hr, hnear⟩ := interpolated_close hp hsize hd
    refine ⟨w, r, hestimated.trans hw, hr, ?_⟩
    rw [abs_le] at hclose hnear ⊢
    push_cast at hnear
    constructor <;> linarith

end errors

/-! ### The two lines -/

/-- The line that the damage values follow. -/
def line (n : ℤ) : ℚ := 19 / 200 * n + 697 / 400

/-- The line of the same slope through the last entry. -/
def lastLine (n : ℤ) : ℚ := 19 / 200 * (n - 255) + 260

section lines

variable {n k : ℤ} {v : Value} {h : ℕ}

private theorem hundredths_line :
    ∀ e ∈ hundredths, (20 * (e.2 : ℤ) - (190 * e.1 + 3485)).natAbs ≤ 55 ∧ 5 ≤ e.1 ∧ e.1 ≤ 250 := by decide

private theorem mem_standard (hmem : (k, v) ∈ standard.entries) :
    (∃ h, (k, h) ∈ hundredths ∧ v = .decimal h 2) ∨ k = 255 ∧ v = .int 260 := by
  rcases List.mem_append.1 hmem with hmem | hmem
  · obtain ⟨⟨k, h⟩, he, heq⟩ := List.mem_map.1 hmem
    cases heq
    exact .inl ⟨h, he, rfl⟩
  · cases List.mem_singleton.1 hmem
    exact .inr ⟨rfl, rfl⟩

theorem eq_of_mem_last (hmem : (255, v) ∈ standard.entries) : v = .int 260 := by
  rcases mem_standard hmem with ⟨h, hentry, -⟩ | ⟨-, hv⟩
  · exact absurd (hundredths_line _ hentry).2.2 (by norm_num)
  · exact hv

/-- All entries but the last lie within 0.0275 of the line. -/
private theorem entry_close (hmem : (k, h) ∈ hundredths) :
    ∃ p, (Value.decimal h 2).amount? = some p ∧ |p - line k| ≤ 11 / 400 + 1 / 2 ^ 49 := by
  obtain ⟨hline, hlow, hhigh⟩ := hundredths_line _ hmem
  have hlow' : (5 : ℚ) ≤ k := by exact_mod_cast hlow
  have hhigh' : (k : ℚ) ≤ 250 := by exact_mod_cast hhigh
  have hline' : |(20 * h - (190 * k + 3485) : ℚ)| ≤ 55 := by
    have hcast : |20 * (h : ℤ) - (190 * k + 3485)| ≤ 55 := by
      rw [Int.abs_eq_natAbs]
      exact_mod_cast hline
    exact_mod_cast hcast
  rw [abs_le] at hline'
  obtain ⟨p, hp, hclose⟩ := close_ofDecimal h 2 (j := 5) (by norm_num; linarith) (by norm_num)
  refine ⟨p, hp, ?_⟩
  rw [abs_le] at hclose ⊢
  unfold line
  constructor <;> linarith

private theorem ne_last_of_isNearest (hnearest : IsNearest standard.keys n k) (hn : n ≤ 252) : k ≠ 255 := by
  have := hnearest.near 250 (by decide +kernel)
  omega

theorem eq_last_of_isNearest (hnearest : IsNearest standard.keys n k) (hn : 253 ≤ n) : k = 255 := by
  have hnear := hnearest.near 255 (by decide +kernel)
  have hkeys : ∀ j ∈ standard.keys, j ≤ 250 ∨ j = 255 := by decide +kernel
  have := hkeys k hnearest.mem
  omega

/-- The damage values up to the base stat 252 follow the line. -/
theorem base_line (hlow : -2 ^ 40 ≤ n) (hhigh : n ≤ 252) :
    ∃ w r, standard.base (.int n) = .ok w ∧ w.amount? = some r ∧ |r - line n| ≤ 28 / 1000 := by
  obtain ⟨k, hnearest⟩ := exists_isNearest n (show standard.keys ≠ [] by decide)
  have hentry : ∀ v, (k, v) ∈ standard.entries → ∃ p, v.amount? = some p ∧ |p - line k| ≤ 11 / 400 + 1 / 2 ^ 49 := by
    intro v hmem
    rcases mem_standard hmem with ⟨h, hentry, rfl⟩ | ⟨hlast, -⟩
    · exact entry_close hentry
    · exact absurd hlast (ne_last_of_isNearest hnearest hhigh)
  have hkeys : ∀ j ∈ standard.keys, 5 ≤ j ∧ j ≤ 255 := by decide +kernel
  obtain ⟨hk, hk'⟩ := hkeys k hnearest.mem
  have hk : (5 : ℚ) ≤ k := by exact_mod_cast hk
  have hk' : (k : ℚ) ≤ 255 := by exact_mod_cast hk'
  have hlow' : (-2 ^ 40 : ℚ) ≤ n := by exact_mod_cast hlow
  have hhigh' : (n : ℚ) ≤ 252 := by exact_mod_cast hhigh
  obtain ⟨w, r, hw, hr, hnear⟩ := base_close keys_standard_sorted hnearest
    (by rw [abs_le]; push_cast; constructor <;> linarith)
    (by rw [line, abs_of_pos (by linarith)]; linarith) hentry
  refine ⟨w, r, hw, hr, ?_⟩
  unfold line at hnear ⊢
  rw [abs_le] at hnear ⊢
  constructor <;> linarith

/-- Those from 253 on follow the line through the last entry. -/
theorem base_last (hlow : 253 ≤ n) (hhigh : n ≤ 2 ^ 40) :
    ∃ w r, standard.base (.int n) = .ok w ∧ w.amount? = some r ∧ |r - lastLine n| ≤ 1 / 1000 := by
  obtain ⟨k, hnearest⟩ := exists_isNearest n (show standard.keys ≠ [] by decide)
  obtain rfl := eq_last_of_isNearest hnearest hlow
  have hentry : ∀ v, (255, v) ∈ standard.entries → ∃ p, v.amount? = some p ∧ |p - 260| ≤ 0 := by
    intro v hmem
    rw [eq_of_mem_last hmem]
    exact ⟨260, rfl, by norm_num⟩
  have hlow' : (253 : ℚ) ≤ n := by exact_mod_cast hlow
  have hhigh' : (n : ℚ) ≤ 2 ^ 40 := by exact_mod_cast hhigh
  obtain ⟨w, r, hw, hr, hnear⟩ := base_close keys_standard_sorted hnearest
    (by rw [abs_le]; push_cast; constructor <;> linarith) (by norm_num) hentry
  refine ⟨w, r, hw, hr, ?_⟩
  unfold lastLine
  rw [abs_le] at hnear ⊢
  push_cast at hnear
  constructor <;> linarith

/-- Without options an estimate is the damage value, rounded twice. -/
private theorem estimate_close {w : Value} {p q δ : ℚ} (hbase : standard.base (.int n) = .ok w)
    (hp : w.amount? = some p) (hclose : |p - q| ≤ δ) (hq : |q| + δ ≤ 2 ^ 39) :
    ∃ e r, standard.estimate (.int n) [] = .ok e ∧ e.amount? = some r ∧ |r - q| ≤ δ + 6 / 1000 := by
  have hplain : standard.estimate (.int n) [] = rounded 3 w >>= rounded 2 := by
    simp [estimate, option, Fields.get?, Value.truthy, hbase, Outcome.ok_bind]
  have hsize : |p| ≤ 2 ^ 39 := by linarith [abs_sub_abs_le_abs_sub p q]
  obtain ⟨u, p', hu, hp', hthree⟩ := rounded_close 3 hp (by linarith)
  have hsize' : |p'| + 1 ≤ 2 ^ 40 := by
    norm_num at hthree
    linarith [abs_sub_abs_le_abs_sub p' p]
  obtain ⟨e, r, he, hr, htwo⟩ := rounded_close 2 hp' hsize'
  refine ⟨e, r, by rw [hplain, hu, Outcome.ok_bind, he], hr, ?_⟩
  rw [abs_le] at hclose hthree htwo ⊢
  norm_num at hthree htwo
  constructor <;> linarith

private theorem estimate_line (hlow : -2 ^ 40 ≤ n) (hhigh : n ≤ 252) :
    ∃ e r, standard.estimate (.int n) [] = .ok e ∧ e.amount? = some r ∧ |r - line n| ≤ 34 / 1000 := by
  obtain ⟨w, p, hw, hp, hclose⟩ := base_line hlow hhigh
  have hsize : |line n| ≤ 2 ^ 38 := by
    have hlow' : (-2 ^ 40 : ℚ) ≤ n := by exact_mod_cast hlow
    have hhigh' : (n : ℚ) ≤ 252 := by exact_mod_cast hhigh
    unfold line
    rw [abs_le]
    constructor <;> linarith
  obtain ⟨e, r, he, hr, hnear⟩ := estimate_close hw hp hclose (by linarith)
  exact ⟨e, r, he, hr, by linarith⟩

private theorem estimate_last (hlow : 253 ≤ n) (hhigh : n ≤ 2 ^ 40) :
    ∃ e r, standard.estimate (.int n) [] = .ok e ∧ e.amount? = some r ∧ |r - lastLine n| ≤ 7 / 1000 := by
  obtain ⟨w, p, hw, hp, hclose⟩ := base_last hlow hhigh
  have hsize : |lastLine n| ≤ 2 ^ 38 := by
    have hlow' : (253 : ℚ) ≤ n := by exact_mod_cast hlow
    have hhigh' : (n : ℚ) ≤ 2 ^ 40 := by exact_mod_cast hhigh
    unfold lastLine
    rw [abs_le]
    constructor <;> linarith
  obtain ⟨e, r, he, hr, hnear⟩ := estimate_close hw hp hclose (by linarith)
  exact ⟨e, r, he, hr, by linarith⟩

end lines

/-- With one more point of the base stat an estimate grows, and by at most 0.2 unless the last entry becomes the nearest
one. -/
theorem growth_even_iff {n : ℤ} (hn : |n| < 2 ^ 40) :
    ∃ e e' r r', standard.estimate (.int n) [] = .ok e ∧ standard.estimate (.int (n + 1)) [] = .ok e' ∧
      e.amount? = some r ∧ e'.amount? = some r' ∧ r ≤ r' ∧ (r' ≤ r + 1 / 5 ↔ n ≠ 252) := by
  rw [abs_lt] at hn
  rcases lt_trichotomy n 252 with hbelow | rfl | habove
  · obtain ⟨e, r, he, hr, hnear⟩ := estimate_line (n := n) (by omega) (by omega)
    obtain ⟨e', r', he', hr', hnear'⟩ := estimate_line (n := n + 1) (by omega) (by omega)
    unfold line at hnear hnear'
    rw [abs_le] at hnear hnear'
    push_cast at hnear'
    exact ⟨e, e', r, r', he, he', hr, hr', by linarith, iff_of_true (by linarith) (by omega)⟩
  · obtain ⟨e, r, he, hr, hnear⟩ := estimate_line (n := 252) (by norm_num) (by norm_num)
    obtain ⟨e', r', he', hr', hnear'⟩ := estimate_last (n := 252 + 1) (by norm_num) (by norm_num)
    unfold line at hnear
    unfold lastLine at hnear'
    rw [abs_le] at hnear hnear'
    push_cast at hnear hnear'
    exact ⟨e, e', r, r', he, he', hr, hr', by linarith, iff_of_false (by linarith) (by simp)⟩
  · obtain ⟨e, r, he, hr, hnear⟩ := estimate_last (n := n) (by omega) (by omega)
    obtain ⟨e', r', he', hr', hnear'⟩ := estimate_last (n := n + 1) (by omega) (by omega)
    unfold lastLine at hnear hnear'
    rw [abs_le] at hnear hnear'
    push_cast at hnear'
    exact ⟨e, e', r, r', he, he', hr, hr', by linarith, iff_of_true (by linarith) (by omega)⟩

/-- In the middle of the widest gap, where the nearest entry changes from 200 to 230. -/
theorem sample_growth_even_iff :
    |(215 : ℤ)| < 2 ^ 40 ∧
      ∃ e e' r r', standard.estimate (.int 215) [] = .ok e ∧ standard.estimate (.int (215 + 1)) [] = .ok e' ∧
        e.amount? = some r ∧ e'.amount? = some r' ∧ r ≤ r' ∧ (r' ≤ r + 1 / 5 ↔ (215 : ℤ) ≠ 252) :=
  ⟨by norm_num, growth_even_iff (by norm_num)⟩

/-- The estimates of 252 and 253 are 25.71 and 259.81. -/
theorem estimate_jumps :
    (do
      let e ← standard.estimate (.int 252) []
      let e' ← standard.estimate (.int 253) []
      return (e.same (.decimal 2571 2), e'.same (.decimal 25981 2), ← e'.le (← e.add (.decimal 2 1))) :
        Outcome (Bool × Bool × Bool)).toOption = some (true, true, false) := by
  decide +kernel

end Docsmith.Battle.DamageTable
