import Docsmith.Proofs.Battle.Damage
import Docsmith.Proofs.Value.Error

/-!
# Steady rolls

If every roll gives the same number, the damage of an attack is a function of that number: it decides whether the hit
is critical and gives the spread (`rolledFactor`), and an attack does the same whenever it is made (`damage_steady`).
For a roll from 0 to 1 the factor is at least four fifths of the factor of the types, and a few times that at most
(`exists_rolledFactor`), and the damage grows in proportion to the power behind it (`exists_steadyDamage`).
-/

namespace Docsmith.Battle

open Binary64

/-- The spread that a roll gives. -/
def spreadOf (roll : Value) : Outcome Value := do
  let width ← (Value.decimal 100 2).sub (.decimal 85 2)
  Value.add (.decimal 85 2) (← width.mul roll)

/-- The factor of a hit, which is half as much again for a critical one. -/
def raised (critical : Bool) (factor : Value) : Outcome Value :=
  if critical then factor.mul (.decimal 15 1) else .ok factor

/-- What a roll makes of a factor if it is the one for the critical hit and the one for the spread, and whether the hit
is critical. -/
def rolledFactor (roll factor : Value) : Outcome (Value × Bool) := do
  let critical ← roll.lt criticalChance
  let factor ← raised critical factor
  .ok (← factor.mul (← spreadOf roll), critical)

/-- The damage of an attack with a steady roll, and whether it is a critical hit. -/
def steadyDamage (roll factor : Value) (base : ℤ) : Outcome (ℤ × Bool) := do
  let rolled ← rolledFactor roll factor
  .ok (← (← (Value.int base).mul rolled.1).floor, rolled.2)

/-! ### Attacks -/

section attacks

variable {rules : Rules} {move attacker defender roll category factor : Value} {base : ℤ} {done : ℤ × Bool}

private theorem next_steady (roll : Value) (u : ℕ) : Rolls.next.apply ⟨[roll], u⟩ = (.ok roll, ⟨[roll], u + 1⟩) := by
  obtain ⟨v, hv, hnext⟩ := Rolls.next_apply (show (⟨[roll], u⟩ : Rolls).values ≠ [] by simp)
  rw [hnext, List.mem_singleton.1 hv]
  rfl

private theorem between_steady {spread : Value} (h : spreadOf roll = .ok spread) (u : ℕ) :
    (Rolls.between (.decimal 85 2) (.decimal 100 2)).apply ⟨[roll], u⟩ = (.ok spread, ⟨[roll], u + 1⟩) := by
  obtain ⟨width, hwidth, h⟩ := Outcome.bind_eq_ok.1 h
  obtain ⟨share, hshare, h⟩ := Outcome.bind_eq_ok.1 h
  rw [Rolls.between, hwidth, Change.ok_bind, Change.apply_bind_of_ok (next_steady roll u), hshare, Change.ok_bind, h]
  rfl

/-- The damage of an attack does not depend on how many rolls were taken before it. -/
theorem damage_steady (hcategory : move.field "category" = .ok category) (hstatus : category.isText "Status" = false)
    (hbase : baseDamage move attacker defender = .ok base)
    (htypes : typesFactor rules move attacker defender = .ok factor) (h : steadyDamage roll factor base = .ok done)
    (u : ℕ) : (damage rules move attacker defender).apply ⟨[roll], u⟩ = (.ok done, ⟨[roll], u + 2⟩) := by
  obtain ⟨rolled, hrolled, h⟩ := Outcome.bind_eq_ok.1 h
  obtain ⟨product, hproduct, h⟩ := Outcome.bind_eq_ok.1 h
  obtain ⟨hit, hfloor, h⟩ := Outcome.bind_eq_ok.1 h
  obtain ⟨critical, hcritical, hrolled⟩ := Outcome.bind_eq_ok.1 hrolled
  obtain ⟨strong, hstrong, hrolled⟩ := Outcome.bind_eq_ok.1 hrolled
  obtain ⟨spread, hspread, hrolled⟩ := Outcome.bind_eq_ok.1 hrolled
  obtain ⟨total, htotal, hrolled⟩ := Outcome.bind_eq_ok.1 hrolled
  cases hrolled
  cases h
  rw [damage, hcategory, Change.ok_bind, hstatus, if_neg Bool.false_ne_true, hbase, Change.ok_bind, htypes,
    Change.ok_bind, Change.apply_bind_of_ok (next_steady roll u), hcritical, Change.ok_bind]
  have hrest : ∀ c : Bool, (do
      let factor ← strong.mul (← Rolls.between (.decimal 85 2) (.decimal 100 2))
      return (← (← Value.mul (.int base) factor).floor, c) : Change Rolls (Int × Bool)).apply ⟨[roll], u + 1⟩ =
        (.ok (hit, c), ⟨[roll], u + 2⟩) := by
    intro c
    rw [Change.apply_bind_of_ok (between_steady hspread (u + 1)), htotal, Change.ok_bind, hproduct, Change.ok_bind,
      hfloor, Change.ok_bind]
    rfl
  cases critical with
  | true =>
    rw [raised, if_pos rfl] at hstrong
    rw [if_pos rfl, hstrong]
    exact hrest true
  | false =>
    cases hstrong
    exact hrest false

end attacks

/-! ### Bounds -/

section bounds

variable {x : Binary64} {r p : ℚ} {factor : Value}

/-- Products up to 1000 are right to a thousandth. -/
private theorem exists_product {v : Value} {y : Binary64} {q : ℚ} (hv : v.amount? = some p) (hp : |p| ≤ 1000)
    (hy : y.value? = some q) (hlow : 0 ≤ p * q) (hhigh : p * q ≤ 1000) :
    ∃ z s, v.mul (.float y) = .ok (.float z) ∧ z.value? = some s ∧ p * q - 1 / 1000 ≤ s ∧ s ≤ p * q + 1 / 1000 := by
  obtain ⟨z, hmul, s, hz, hs⟩ := Value.close_mul_float (j := 10) hv (hp.trans (by norm_num)) hy
    (by rw [abs_of_nonneg hlow]; linarith) (by norm_num)
  rw [abs_le] at hs
  norm_num at hs
  exact ⟨z, s, hmul, hz, by linarith, by linarith⟩

private theorem exists_spreadOf (hx : x.value? = some r) (hr : 0 ≤ r) (hr' : r < 1) :
    ∃ y q, spreadOf (.float x) = .ok (.float y) ∧ y.value? = some q ∧ 5 / 6 ≤ q ∧ q ≤ 5 / 2 := by
  obtain ⟨width, hvalue, hwidth0, hwidth1⟩ := within_spreadWidth
  rw [pow_zero] at hwidth1
  have hshare : 0 ≤ width * r ∧ width * r ≤ 1 :=
    ⟨mul_nonneg hwidth0 hr, mul_le_one₀ hwidth1 hr hr'.le⟩
  obtain ⟨z, share, hmul, hz, hsharelow, hsharehigh⟩ := exists_product hvalue
    (by rw [abs_of_nonneg hwidth0]; linarith) hx hshare.1 (by linarith)
  obtain ⟨low, hlow, hnear⟩ := close_ofDecimal 85 2 (j := 0) (by norm_num) (by norm_num)
  rw [abs_le] at hnear
  norm_num at hnear
  obtain ⟨y, hadd, q, hy, hsum⟩ := Value.close_add_float (v := .decimal 85 2) (j := 2) hlow
    (abs_le.2 ⟨by linarith, by linarith⟩) hz (abs_lt.2 ⟨by linarith, by linarith⟩) (by norm_num)
  rw [abs_le] at hsum
  norm_num at hsum
  refine ⟨y, q, ?_, hy, by linarith, by linarith⟩
  rw [spreadOf, sub_eq_spreadWidth, Outcome.ok_bind, hmul, Outcome.ok_bind, hadd]

private theorem exists_raised (critical : Bool) (hfactor : factor.amount? = some p) (hp : 1 ≤ p) (hp' : p ≤ 8 / 5) :
    ∃ strong p', raised critical factor = .ok strong ∧ strong.amount? = some p' ∧ p ≤ p' ∧ p' ≤ 5 / 2 := by
  cases critical with
  | false => exact ⟨factor, p, rfl, hfactor, le_rfl, by linarith⟩
  | true =>
    obtain ⟨c, hc, hnear⟩ := close_ofDecimal 15 1 (j := 1) (by norm_num) (by norm_num)
    rw [abs_le] at hnear
    norm_num at hnear
    have hlow : p * (149 / 100) ≤ p * c := mul_le_mul_of_nonneg_left (by linarith) (by linarith)
    have hhigh : p * c ≤ 8 / 5 * (151 / 100) := mul_le_mul hp' (by linarith) (by linarith) (by norm_num)
    obtain ⟨z, q, hmul, hz, hqlow, hqhigh⟩ := exists_product hfactor (abs_le.2 ⟨by linarith, by linarith⟩) hc
      (by linarith) (by linarith)
    exact ⟨.float z, q, hmul, hz, by linarith, by linarith⟩

/-- A roll from 0 to 1 changes a factor within bounds. -/
private theorem exists_rolledFactor (hx : x.value? = some r) (hr : 0 ≤ r) (hr' : r < 1)
    (hfactor : factor.amount? = some p) (hp : 1 ≤ p) (hp' : p ≤ 8 / 5) :
    ∃ z q critical, rolledFactor (.float x) factor = .ok (.float z, critical) ∧ z.value? = some q ∧ 4 / 5 * p ≤ q ∧
      q ≤ 7 := by
  have hroll : (Value.float x).Within 0 := Value.within_float hx hr (by linarith)
  have hchance : criticalChance.Within 0 := Value.within_of_fraction? (by decide +kernel)
  obtain ⟨critical, hcritical⟩ := hroll.lt_ok hchance
  obtain ⟨strong, p', hstrong, hp'amount, hpp', hp'le⟩ := exists_raised critical hfactor hp hp'
  obtain ⟨y, s, hspread, hy, hs, hs'⟩ := exists_spreadOf hx hr hr'
  have hlow : p * (5 / 6) ≤ p' * s := mul_le_mul hpp' hs (by norm_num) (by linarith)
  have hhigh : p' * s ≤ 5 / 2 * (5 / 2) := mul_le_mul hp'le hs' (by linarith) (by norm_num)
  obtain ⟨z, q, hmul, hz, hqlow, hqhigh⟩ := exists_product hp'amount (abs_le.2 ⟨by linarith, by linarith⟩) hy
    (by linarith) (by linarith)
  refine ⟨z, q, critical, ?_, hz, by linarith, by linarith⟩
  rw [rolledFactor, hcritical, Outcome.ok_bind, hstrong, Outcome.ok_bind, hspread, Outcome.ok_bind, hmul]
  rfl

/-- The damage is the power behind it times the factor of the roll, but for rounding. -/
theorem exists_steadyDamage (hx : x.value? = some r) (hr : 0 ≤ r) (hr' : r < 1) (hfactor : factor.amount? = some p)
    (hp : 1 ≤ p) (hp' : p ≤ 8 / 5) :
    ∃ q critical, 4 / 5 * p ≤ q ∧ q ≤ 7 ∧ ∀ base : ℕ, 2 ≤ base → base ≤ 100 → ∃ hit : ℕ,
      steadyDamage (.float x) factor base = .ok ((hit : ℤ), critical) ∧ base * q - 5 / 4 ≤ hit ∧
        hit ≤ base * q + 1 / 4 := by
  obtain ⟨z, q, critical, hrolled, hz, hq, hq'⟩ := exists_rolledFactor hx hr hr' hfactor hp hp'
  refine ⟨q, critical, hq, hq', fun base hbase hbase' => ?_⟩
  have hlow : (2 : ℚ) ≤ base := by exact_mod_cast hbase
  have hhigh : (base : ℚ) ≤ 100 := by exact_mod_cast hbase'
  have hproductLow : 2 * (4 / 5) ≤ base * q := mul_le_mul hlow (by linarith) (by norm_num) (by linarith)
  have hproductHigh : base * q ≤ 100 * 7 := mul_le_mul hhigh hq' (by linarith) (by norm_num)
  obtain ⟨y, s, hmul, hy, hslow, hshigh⟩ := exists_product (v := .int base) (p := base)
    (by simp [Value.amount?, Value.number?, Value.Number.amount?]) (abs_le.2 ⟨by linarith, by linarith⟩) hz
    (by linarith) (by linarith)
  have hfloor : ((⌊s⌋₊ : ℕ) : ℤ) = ⌊s⌋ := Int.natCast_floor_eq_floor (by linarith)
  refine ⟨⌊s⌋₊, ?_, by linarith [Nat.lt_floor_add_one s], by linarith [Nat.floor_le (show 0 ≤ s by linarith)]⟩
  rw [steadyDamage, hrolled, Outcome.ok_bind, hmul, Outcome.ok_bind,
    Value.floor_amount (v := .float y) hy, Outcome.ok_bind, hfloor]

end bounds

end Docsmith.Battle
