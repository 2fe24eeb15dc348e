import Docsmith.Proofs.Binary64.Signed
import Docsmith.Proofs.Value.Amount

/-!
# Errors of arithmetic

Arithmetic on values of either sign, followed with bounds on the error of each step.  Integers up to `2 ^ 53` are turned
into binary64 numbers without an error (`toBinary64_exact`), so that each operation on such values is the exact one,
rounded once.
-/

namespace Docsmith

open Binary64

/-- A number of the format that is given by its decimal digits. -/
theorem Binary64.close_ofDecimal (digits places : ℕ) {j : ℕ} (hlt : (digits / 10 ^ places : ℚ) < 2 ^ j)
    (hj : j < 1024) :
    Close j (digits / 10 ^ places) (ofDecimal false digits (-(places : ℤ))) := by
  have hpow : ((Nat.pow 10 places : ℕ) : ℚ) = 10 ^ places := by rw [Nat.pow_eq, Nat.cast_pow, Nat.cast_ofNat]
  rw [← hpow] at hlt ⊢
  unfold ofDecimal
  split
  next h =>
    obtain rfl : places = 0 := by omega
    simpa [signed] using close_ofQuotient false (n := digits * Nat.pow 10 0) one_pos (by simpa using hlt) hj
  next =>
    rw [neg_neg, Int.toNat_natCast]
    exact close_ofQuotient false (Nat.pow_pos (by norm_num)) hlt hj

namespace Value

variable {x y : Binary64} {v : Value} {m : Number} {p q : ℚ} {j : ℕ}

theorem toBinary64_exact (hm : m.amount? = some p) (hp : |p| ≤ 2 ^ 53) :
    ∃ x, m.toBinary64 = .ok x ∧ x.value? = some p := by
  cases m with
  | float x => exact ⟨x, rfl, hm⟩
  | int n =>
    cases hm
    have hn : n.natAbs ≤ 2 ^ 53 := by
      rw [← Int.cast_abs, Int.abs_eq_natAbs, Int.cast_natCast] at hp
      exact_mod_cast hp
    have hvalue := value?_ofQuotient_one (decide (n < 0)) hn
    rw [signed_natAbs] at hvalue
    refine ⟨_, ?_, hvalue⟩
    obtain ⟨s, k, e, hx, -⟩ := exists_finite_of_value? hvalue
    simp only [Number.toBinary64, ofInt?, hx]

/-- The product of a binary64 number and an integer. -/
theorem close_float_mul_int (hx : x.value? = some p) {n : ℤ} (hn : |(n : ℚ)| ≤ 2 ^ 53) (hlt : |p * n| < 2 ^ j)
    (hj : j < 1024) : ∃ z, (Value.float x).mul (.int n) = .ok (.float z) ∧ Close j (p * n) z := by
  obtain ⟨y, hy, hvalue⟩ := toBinary64_exact (m := .int n) rfl hn
  refine ⟨x.mul y, ?_, close_mul hx hvalue hlt hj⟩
  rw [mul_of_number? rfl rfl, Number.mul, Number.combine, hy]
  · rfl
  · rintro _ _ ⟨⟩

/-- The quotient of a binary64 number and a natural number. -/
theorem close_float_div_int (hx : x.value? = some p) {d : ℕ} (hd : 0 < d) (hexact : d ≤ 2 ^ 53)
    (hlt : |p / d| < 2 ^ j) (hj : j < 1024) :
    ∃ z, (Value.float x).div (.int d) = .ok (.float z) ∧ Close j (p / d) z := by
  obtain ⟨y, hy, hvalue⟩ := toBinary64_exact (m := .int d) (p := d) rfl
    (by rw [abs_of_nonneg (Nat.cast_nonneg d)]; exact_mod_cast hexact)
  obtain ⟨z, hz, hclose⟩ := close_div hx hvalue (by exact_mod_cast hd) hlt hj
  refine ⟨z, ?_, hclose⟩
  rw [div_of_number? rfl rfl]
  simp only [Number.div, Number.toBinary64_float, hy, hz, Outcome.ok_bind]
  rfl

/-- The sum of a number and a binary64 number. -/
theorem close_add_float (hv : v.amount? = some p) (hp : |p| ≤ 2 ^ 53) (hy : y.value? = some q) (hlt : |p + q| < 2 ^ j)
    (hj : j < 1024) : ∃ z, v.add (.float y) = .ok (.float z) ∧ Close j (p + q) z := by
  obtain ⟨m, hm, hmp⟩ := Option.bind_eq_some_iff.1 hv
  obtain ⟨x, hx, hvalue⟩ := toBinary64_exact hmp hp
  refine ⟨x.add y, ?_, close_add hvalue hy hlt hj⟩
  rw [add_of_number? hm rfl, Number.add, Number.combine, hx]
  · rfl
  · rintro _ _ - ⟨⟩

/-- A number can be added to a binary64 number. -/
theorem exists_float_add (x : Binary64) (hv : v.amount? = some p) (hp : |p| ≤ 2 ^ 53) :
    ∃ y, (Value.float x).add v = .ok (.float (x.add y)) ∧ y.value? = some p := by
  obtain ⟨m, hm, hmp⟩ := Option.bind_eq_some_iff.1 hv
  obtain ⟨y, hy, hvalue⟩ := toBinary64_exact hmp hp
  refine ⟨y, ?_, hvalue⟩
  rw [add_of_number? rfl hm, Number.add, Number.combine, hy]
  · rfl
  · rintro _ _ ⟨⟩

/-- The product of a number and a binary64 number. -/
theorem close_mul_float (hv : v.amount? = some p) (hp : |p| ≤ 2 ^ 53) (hy : y.value? = some q) (hlt : |p * q| < 2 ^ j)
    (hj : j < 1024) : ∃ z, v.mul (.float y) = .ok (.float z) ∧ Close j (p * q) z := by
  obtain ⟨m, hm, hmp⟩ := Option.bind_eq_some_iff.1 hv
  obtain ⟨x, hx, hvalue⟩ := toBinary64_exact hmp hp
  refine ⟨x.mul y, ?_, close_mul hvalue hy hlt hj⟩
  rw [mul_of_number? hm rfl, Number.mul, Number.combine, hx]
  · rfl
  · rintro _ _ - ⟨⟩

end Value

end Docsmith
