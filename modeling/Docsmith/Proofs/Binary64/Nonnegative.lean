import Docsmith.Proofs.Binary64.Rounding

/-!
# Numbers that are not negative

The product, the sum and the quotient of binary64 numbers that are not negative, zeros of either sign included: the
exact result, rounded once (`rounds_mul_of_nonneg`, `rounds_add_of_nonneg`, `rounds_div_of_nonneg`).
-/

namespace Docsmith.Binary64

variable {x y : Binary64} {p q : ℚ}

theorem value?_zero (s : Bool) : (zero s).value? = some 0 := by cases s <;> simp [zero, value?, signed]

private theorem value?_ofScaled_zero (s : Bool) (e : ℤ) : (ofScaled s 0 e).value? = some 0 := by
  unfold ofScaled
  split <;> simpa [ofQuotient, zero] using value?_zero s

theorem eq_zero_of_value?_eq_zero {s : Bool} {m : ℕ} {e : ℤ} (h : (finite s m e).value? = some 0) : m = 0 := by
  cases s <;> simpa [value?, signed, (two_zpow_pos e).ne'] using h

theorem rounds_zero (h : x.value? = some 0) : Rounds 0 x := by
  rwa [Rounds, rounded_zero, if_pos limit_pos]

theorem rounds_mul_of_nonneg (hx : x.value? = some p) (hy : y.value? = some q) (hp : 0 ≤ p) (hq : 0 ≤ q) :
    Rounds (p * q) (x.mul y) := by
  obtain ⟨s, m, e, rfl, -⟩ := exists_finite_of_value? hx
  obtain ⟨t, n, f, rfl, -⟩ := exists_finite_of_value? hy
  rcases hp.eq_or_lt with rfl | hp
  · obtain rfl := eq_zero_of_value?_eq_zero hx
    rw [zero_mul]
    exact rounds_zero (by simpa [mul] using value?_ofScaled_zero (s != t) (e + f))
  rcases hq.eq_or_lt with rfl | hq
  · obtain rfl := eq_zero_of_value?_eq_zero hy
    rw [mul_zero]
    exact rounds_zero (by simpa [mul] using value?_ofScaled_zero (s != t) (e + f))
  exact rounds_mul hx hy hp hq

theorem value?_mul (hx : x.value? = some p) (hy : y.value? = some q) (hp : 0 ≤ p) (hq : 0 ≤ q)
    (hlt : rounded (p * q) < limit) : (x.mul y).value? = some (rounded (p * q)) :=
  (rounds_mul_of_nonneg hx hy hp hq).value? hlt

/-- Only zero has a negative sign. -/
theorem eq_false_or_eq_zero {s : Bool} {m : ℕ} {e : ℤ} (h : 0 ≤ (signed s m * 2 ^ e : ℚ)) : s = false ∨ m = 0 := by
  cases s with
  | false => exact .inl rfl
  | true =>
    have hneg : (0 : ℚ) ≤ -m := by simpa [signed] using nonneg_of_mul_nonneg_left h (two_zpow_pos e)
    have hzero : m ≤ 0 := by exact_mod_cast (show (m : ℚ) ≤ 0 by linarith)
    exact .inr (Nat.le_zero.1 hzero)

theorem cast_signed (s : Bool) (m : ℕ) : (signed s m : ℚ) = if s then -(m : ℚ) else m := by
  cases s <;> simp [signed]

/-- A number in units of a smaller exponent. -/
theorem signed_mul_zpow (s : Bool) (m : ℕ) {e g : ℤ} (hg : g ≤ e) :
    (signed s (m * Nat.pow 2 (e - g).toNat) * 2 ^ g : ℚ) = signed s m * 2 ^ e := by
  have hsplit : (2 : ℚ) ^ e = 2 ^ (e - g) * 2 ^ g := by rw [← zpow_add₀ (by norm_num), sub_add_cancel]
  rw [cast_signed, cast_signed, Nat.cast_mul, cast_natPow_toNat (by omega), hsplit]
  split_ifs <;> ring

/-- A number that is not negative, in units of a smaller exponent. -/
private theorem exists_signed_eq {s : Bool} {m : ℕ} {e g : ℤ} (h : 0 ≤ (signed s m * 2 ^ e : ℚ)) (hg : g ≤ e) :
    ∃ n : ℕ, signed s (m * Nat.pow 2 (e - g).toNat) = n ∧ (signed s m * 2 ^ e : ℚ) = n * 2 ^ g := by
  have hunits : signed s (m * Nat.pow 2 (e - g).toNat) = ((m * Nat.pow 2 (e - g).toNat : ℕ) : ℤ) := by
    rcases eq_false_or_eq_zero h with rfl | rfl <;> simp [signed]
  refine ⟨_, hunits, ?_⟩
  rw [← signed_mul_zpow s m hg, hunits, Int.cast_natCast]

theorem rounds_add_of_nonneg (hx : x.value? = some p) (hy : y.value? = some q) (hp : 0 ≤ p) (hq : 0 ≤ q) :
    Rounds (p + q) (x.add y) := by
  obtain ⟨s, m, e, rfl, rfl⟩ := exists_finite_of_value? hx
  obtain ⟨t, n, f, rfl, rfl⟩ := exists_finite_of_value? hy
  obtain ⟨a, ha, hea⟩ := exists_signed_eq hp (min_le_left e f)
  obtain ⟨b, hb, heb⟩ := exists_signed_eq hq (min_le_right e f)
  rw [hea, heb, ← add_mul]
  simp only [add, ha, hb]
  split
  next hsum =>
    have hzero : (a + b : ℚ) = 0 := by exact_mod_cast hsum
    rw [hzero, zero_mul]
    exact rounds_zero (value?_zero _)
  next =>
    have hsign : decide ((a + b : ℤ) < 0) = false := decide_eq_false (by omega)
    have habs : (a + b : ℤ).natAbs = a + b := by omega
    rw [hsign, habs]
    exact_mod_cast rounds_ofScaled (a + b) (min e f)

theorem value?_add (hx : x.value? = some p) (hy : y.value? = some q) (hp : 0 ≤ p) (hq : 0 ≤ q)
    (hlt : rounded (p + q) < limit) : (x.add y).value? = some (rounded (p + q)) :=
  (rounds_add_of_nonneg hx hy hp hq).value? hlt

theorem rounds_div_of_nonneg (hx : x.value? = some p) (hy : y.value? = some q) (hp : 0 ≤ p) (hq : 0 < q) :
    ∃ z, x.div? y = some z ∧ Rounds (p / q) z := by
  rcases hp.eq_or_lt with rfl | hp
  · obtain ⟨s, m, e, rfl, -⟩ := exists_finite_of_value? hx
    obtain rfl := eq_zero_of_value?_eq_zero hx
    obtain ⟨n, f, rfl, rfl⟩ := eq_finite_of_value? hy hq
    have hn : n ≠ 0 := by
      rintro rfl
      simp at hq
    refine ⟨zero (s != false), ?_, by rw [zero_div]; exact rounds_zero (value?_zero _)⟩
    simp [div?, isZero, hn, ofQuotient, zero]
  · exact rounds_div hx hy hp hq

theorem value?_div (hx : x.value? = some p) (hy : y.value? = some q) (hp : 0 ≤ p) (hq : 0 < q)
    (hlt : rounded (p / q) < limit) : ∃ z, x.div? y = some z ∧ z.value? = some (rounded (p / q)) := by
  obtain ⟨z, hz, hround⟩ := rounds_div_of_nonneg hx hy hp hq
  exact ⟨z, hz, hround.value? hlt⟩

end Docsmith.Binary64
