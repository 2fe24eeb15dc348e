import Docsmith.Proofs.Binary64.Nonnegative

/-!
# Numbers of either sign

Operations on finite numbers whatever their signs.  A result with a negative sign is the one with a positive sign,
negated (`ofQuotient_true`), so that the bounds on the error of rounding hold on both sides of zero: as long as the
exact result is less than `2 ^ j` in size, the rounded one is finite and differs from it by at most half a unit of that
size (`Close`).  Rounding to decimal places changes a number by half a place more (`exists_close_roundPlaces`).
-/

namespace Docsmith.Binary64

/-- A finite number that differs from `q` by at most half a unit of the numbers below `2 ^ j`. -/
def Close (j : ℕ) (q : ℚ) (x : Binary64) : Prop := ∃ r, x.value? = some r ∧ |r - q| ≤ 2 ^ j / 2 ^ 54

section signs

variable {x y : Binary64} {p q : ℚ} {j : ℕ}

private theorem value?_neg (h : x.value? = some q) : x.neg.value? = some (-q) := by
  obtain ⟨s, m, e, rfl, rfl⟩ := exists_finite_of_value? h
  cases s <;> simp [neg, value?, signed]

private theorem Close.neg (h : Close j q x) : Close j (-q) x.neg := by
  obtain ⟨r, hr, hclose⟩ := h
  refine ⟨-r, value?_neg hr, ?_⟩
  rwa [neg_sub_neg, abs_sub_comm]

private theorem close_of_rounds (h : Rounds q x) (hq : 0 ≤ q) (hlt : q < 2 ^ j) (hj : j < 1024) : Close j q x := by
  have hlimit := (rounded_le_two_pow hq hlt.le).trans_lt (two_pow_lt_limit hj)
  refine ⟨rounded q, h.value? hlimit, ?_⟩
  rcases hq.eq_or_lt with rfl | hpos
  · rw [rounded_zero, sub_zero, abs_zero]
    positivity
  · have herror := abs_rounded_sub_le_of_lt (j := j) hpos (by exact_mod_cast hlt) (by unfold minExponent; omega)
    rw [zpow_sub₀ (by norm_num), zpow_natCast] at herror
    refine herror.trans_eq ?_
    norm_num
    ring

private theorem pack_true (m : ℕ) (e : ℤ) : pack true m e = (pack false m e).neg := by
  unfold pack
  split
  split_ifs <;> rfl

private theorem ofQuotient_true (num den : ℕ) : ofQuotient true num den = (ofQuotient false num den).neg := by
  unfold ofQuotient
  split
  · rfl
  · exact pack_true _ _

private theorem abs_signed (s : Bool) (m : ℕ) : |(signed s m : ℚ)| = m := by
  cases s <;> simp [signed]

theorem close_ofQuotient (s : Bool) {n d : ℕ} (hd : 0 < d) (hlt : (n / d : ℚ) < 2 ^ j) (hj : j < 1024) :
    Close j (signed s n / d) (ofQuotient s n d) := by
  have hpositive := close_of_rounds (rounds_ofQuotient n hd) (by positivity) hlt hj
  cases s with
  | false => exact hpositive
  | true =>
    rw [ofQuotient_true, cast_signed, if_pos rfl, neg_div]
    exact hpositive.neg

/-- Integers up to `2 ^ 53` are numbers of the format. -/
theorem value?_ofQuotient_one (s : Bool) {n : ℕ} (hn : n ≤ 2 ^ 53) :
    (ofQuotient s n 1).value? = some (signed s n : ℚ) := by
  have hexact : rounded (n / (1 : ℕ)) = n := by
    rw [Nat.cast_one, div_one]
    exact rounded_eq_self (representable_natCast hn) (Nat.cast_nonneg n)
  have hlimit : (n : ℚ) < limit := lt_of_le_of_lt (by exact_mod_cast hn) (two_pow_lt_limit (j := 53) (by norm_num))
  have hpositive := (rounds_ofQuotient n one_pos).value? (by rwa [hexact])
  rw [hexact] at hpositive
  cases s with
  | false => exact hpositive
  | true =>
    rw [ofQuotient_true, cast_signed, if_pos rfl]
    exact value?_neg hpositive

private theorem close_ofScaled (s : Bool) {m : ℕ} {e : ℤ} (hlt : (m * 2 ^ e : ℚ) < 2 ^ j) (hj : j < 1024) :
    Close j (signed s m * 2 ^ e) (ofScaled s m e) := by
  unfold ofScaled
  split
  next he =>
    have hcast : ((m * Nat.pow 2 e.toNat : ℕ) : ℚ) = m * 2 ^ e := by rw [Nat.cast_mul, cast_natPow_toNat he]
    have h := close_ofQuotient s (n := m * Nat.pow 2 e.toNat) one_pos (by rwa [hcast, Nat.cast_one, div_one]) hj
    rw [cast_signed, hcast, Nat.cast_one, div_one] at h
    rw [cast_signed, ite_mul, neg_mul]
    exact h
  next he =>
    have hcast := cast_natPow_toNat_neg (show e ≤ 0 by omega)
    have h := close_ofQuotient s (n := m) (natPow_pos (-e).toNat) (by rwa [hcast, div_inv_eq_mul]) hj
    rwa [hcast, div_inv_eq_mul] at h

end signs

section operations

variable {x y : Binary64} {p q : ℚ} {j : ℕ}

private theorem signed_mul (s t : Bool) (m n : ℕ) : signed (s != t) (m * n) = signed s m * signed t n := by
  cases s <;> cases t <;> simp [signed]

theorem close_mul (hx : x.value? = some p) (hy : y.value? = some q) (hlt : |p * q| < 2 ^ j) (hj : j < 1024) :
    Close j (p * q) (x.mul y) := by
  obtain ⟨s, m, e, rfl, rfl⟩ := exists_finite_of_value? hx
  obtain ⟨t, n, f, rfl, rfl⟩ := exists_finite_of_value? hy
  have hvalue : (signed s m * 2 ^ e * (signed t n * 2 ^ f) : ℚ) = signed (s != t) (m * n) * 2 ^ (e + f) := by
    rw [signed_mul, zpow_add₀ (by norm_num)]
    push_cast
    ring
  rw [hvalue] at hlt ⊢
  rw [abs_mul, abs_signed, abs_of_pos (two_zpow_pos _)] at hlt
  exact close_ofScaled _ hlt hj

theorem signed_natAbs (n : ℤ) : signed (decide (n < 0)) n.natAbs = n := by
  unfold signed
  by_cases h : n < 0
  · simp only [h, decide_true, if_true]
    omega
  · simp only [h, decide_false, Bool.false_eq_true, if_false]
    omega

theorem close_add (hx : x.value? = some p) (hy : y.value? = some q) (hlt : |p + q| < 2 ^ j) (hj : j < 1024) :
    Close j (p + q) (x.add y) := by
  obtain ⟨s, m, e, rfl, rfl⟩ := exists_finite_of_value? hx
  obtain ⟨t, n, f, rfl, rfl⟩ := exists_finite_of_value? hy
  rw [← signed_mul_zpow s m (min_le_left e f), ← signed_mul_zpow t n (min_le_right e f), ← add_mul,
    ← Int.cast_add] at hlt ⊢
  simp only [add]
  generalize signed s (m * Nat.pow 2 (e - min e f).toNat) + signed t (n * Nat.pow 2 (f - min e f).toNat) = sum at hlt ⊢
  split
  next hzero =>
    refine ⟨0, value?_zero _, ?_⟩
    rw [hzero, Int.cast_zero, zero_mul, sub_zero, abs_zero]
    positivity
  next =>
    have hclose := close_ofScaled (decide (sum < 0)) (m := sum.natAbs) (e := min e f) (j := j)
      (by rwa [abs_mul, abs_of_pos (two_zpow_pos _), ← Int.cast_abs, ← Int.natCast_natAbs, Int.cast_natCast] at hlt) hj
    rwa [signed_natAbs] at hclose

theorem close_div (hx : x.value? = some p) (hy : y.value? = some q) (hq : 0 < q) (hlt : |p / q| < 2 ^ j)
    (hj : j < 1024) : ∃ z, x.div? y = some z ∧ Close j (p / q) z := by
  obtain ⟨s, m, e, rfl, rfl⟩ := exists_finite_of_value? hx
  obtain ⟨n, f, rfl, rfl⟩ := eq_finite_of_value? hy hq
  have hn : 0 < n := by
    rw [Nat.pos_iff_ne_zero]
    rintro rfl
    simp at hq
  have hn' : (0 : ℚ) < n := by exact_mod_cast hn
  have hnonzero : (finite false n f).isZero = false := by simp [isZero, hn.ne']
  have hsize : (m * 2 ^ e / (n * 2 ^ f) : ℚ) < 2 ^ j := by
    rwa [abs_div, abs_mul, abs_signed, abs_of_pos (two_zpow_pos e), abs_of_pos hq] at hlt
  simp only [div?, hnonzero, Bool.false_eq_true, if_false, Option.some.injEq, exists_eq_left', Bool.bne_false]
  split
  next hle =>
    have hcast := cast_natPow_toNat (show 0 ≤ e - f by omega)
    have hquotient : ∀ a : ℚ, a * 2 ^ e / (n * 2 ^ f) = a * 2 ^ (e - f) / n := by
      intro a
      rw [zpow_sub₀ (by norm_num)]
      field_simp
    have h := close_ofQuotient s (n := m * Nat.pow 2 (e - f).toNat) hn
      (by rwa [Nat.cast_mul, hcast, ← hquotient]) hj
    rw [cast_signed, Nat.cast_mul, hcast] at h
    rw [hquotient, cast_signed, ite_mul, neg_mul]
    exact h
  next hlt =>
    have hcast := cast_natPow_toNat (show 0 ≤ f - e by omega)
    have hquotient : ∀ a : ℚ, a * 2 ^ e / (n * 2 ^ f) = a / (n * 2 ^ (f - e)) := by
      intro a
      rw [zpow_sub₀ (by norm_num)]
      field_simp
    have h := close_ofQuotient s (n := m) (Nat.mul_pos hn (natPow_pos (f - e).toNat))
      (by rwa [Nat.cast_mul, hcast, ← hquotient]) hj
    rw [Nat.cast_mul, hcast] at h
    rwa [hquotient]

/-- Rounding to decimal places takes the nearest number of places and keeps the sign. -/
theorem exists_roundPlaces_eq (places : ℕ) (s : Bool) (m : ℕ) (e : ℤ) :
    ∃ g : ℕ, (finite s m e).roundPlaces places = ofQuotient s g (Nat.pow 10 places) ∧
      |(g / 10 ^ places - m * 2 ^ e : ℚ)| ≤ 1 / (2 * 10 ^ places) := by
  obtain ⟨n, d, hfraction, hd, hvalue⟩ := fraction?_eq_some (x := finite false m e) rfl
  have hpow : (0 : ℚ) < 10 ^ places := by positivity
  have hsize : (m * 2 ^ e : ℚ) = n.natAbs / d := by
    have hpos : (0 : ℚ) ≤ n / d := hvalue ▸ mul_nonneg (by simp [signed]) (two_zpow_pos e).le
    rw [Nat.cast_natAbs, Int.cast_abs, ← abs_of_pos (show (0 : ℚ) < d by exact_mod_cast hd), ← abs_div,
      abs_of_nonneg hpos, ← hvalue]
    rfl
  refine ⟨divRound (n.natAbs * Nat.pow 10 places) d, by simp only [roundPlaces, abs, hfraction], ?_⟩
  have hhalf := abs_nearest_sub_le (x := 10 ^ places * (m * 2 ^ e)) (by positivity)
  rw [divRound_eq_nearest hd, Nat.cast_mul, mul_div_right_comm, ← hsize, Nat.pow_eq, Nat.cast_pow, Nat.cast_ofNat,
    mul_comm (m * 2 ^ e : ℚ), div_sub' hpow.ne', abs_div, abs_of_pos hpow, div_le_div_iff₀ hpow (by positivity)]
  linarith [mul_le_mul_of_nonneg_right hhalf (show (0 : ℚ) ≤ 2 * 10 ^ places by positivity)]

theorem exists_close_roundPlaces (places : ℕ) (hx : x.value? = some p) (hlt : |p| + 1 ≤ 2 ^ j) (hj : j < 1024) :
    ∃ g : ℚ, |g - p| ≤ 1 / (2 * 10 ^ places) ∧ Close j g (x.roundPlaces places) := by
  obtain ⟨s, m, e, rfl, rfl⟩ := exists_finite_of_value? hx
  obtain ⟨g, hround, hnear⟩ := exists_roundPlaces_eq places s m e
  have hhalf : (1 / (2 * 10 ^ places) : ℚ) ≤ 1 / 2 := by
    refine one_div_le_one_div_of_le (by norm_num) ?_
    linarith [one_le_pow₀ (n := places) (show (1 : ℚ) ≤ 10 by norm_num)]
  rw [abs_mul, abs_signed, abs_of_pos (two_zpow_pos e)] at hlt
  have hclose := close_ofQuotient (j := j) s (n := g) (d := Nat.pow 10 places) (Nat.pow_pos (by norm_num))
    (by rw [Nat.pow_eq, Nat.cast_pow, Nat.cast_ofNat]; linarith [(abs_le.1 hnear).2]) hj
  rw [← hround, Nat.pow_eq, Nat.cast_pow, Nat.cast_ofNat] at hclose
  refine ⟨_, ?_, hclose⟩
  rw [cast_signed, cast_signed]
  cases s with
  | false => exact hnear
  | true =>
    rw [if_pos rfl, if_pos rfl, neg_div, neg_mul, neg_sub_neg, abs_sub_comm]
    exact hnear

end operations

end Docsmith.Binary64
