import Docsmith.Binary64.Basic
import Mathlib

/-!
# Rounding

What the operations on binary64 numbers compute, said over the rational numbers.  `rounded x` is the number of the
format nearest to `x ≥ 0`, without a bound on its exponent; `ofQuotient` gives it, or an infinity from `2 ^ 1024` on
(`rounds_ofQuotient`).  Rounding is monotone (`rounded_mono`), leaves numbers of the format as they are
(`rounded_of_representable`), and changes a number by at most its `2 ^ 53`th part (`abs_rounded_sub_le`).  What is
short of a natural number by its `2 ^ 54`th part goes up to it, ties included (`le_rounded_of_sub_le`).
-/

namespace Docsmith.Binary64

/-! ### Rounding to natural numbers -/

section divRound

variable {n d n' d' k : ℕ}

private theorem two_mul_divRound_le (hd : 0 < d) : 2 * (divRound n d * d) ≤ 2 * n + d := by
  have hdiv := Nat.div_add_mod n d
  have hmod := Nat.mod_lt n hd
  simp only [divRound]
  split_ifs <;> nlinarith [Nat.zero_le (n % d)]

private theorem le_two_mul_divRound (hd : 0 < d) : 2 * n ≤ 2 * (divRound n d * d) + d := by
  have hdiv := Nat.div_add_mod n d
  have hmod := Nat.mod_lt n hd
  simp only [divRound]
  split_ifs <;> nlinarith

private theorem divRound_even_of_tie (hd : 0 < d) (h : 2 * n = (2 * k + 1) * d) : divRound n d % 2 = 0 := by
  have hdiv := Nat.div_add_mod n d
  have hquotient : n / d = k := by
    refine Nat.div_eq_of_lt_le ?_ ?_ <;> nlinarith
  have hrest : 2 * (n % d) = d := by
    rw [hquotient] at hdiv
    nlinarith
  simp only [divRound, hrest, lt_irrefl, if_false]
  split_ifs <;> omega

/-- Only at a tie could the larger quotient be rounded to the smaller number, and then both go to the even one. -/
private theorem divRound_mono (hd : 0 < d) (hd' : 0 < d') (h : n * d' ≤ n' * d) : divRound n d ≤ divRound n' d' := by
  by_contra hlt
  have hup := two_mul_divRound_le (n := n) hd
  have hdown := le_two_mul_divRound (n := n') hd'
  obtain ⟨m, hm⟩ : ∃ m, divRound n d = m := ⟨_, rfl⟩
  obtain ⟨k, hk⟩ : ∃ k, divRound n' d' = k := ⟨_, rfl⟩
  rw [hm] at hup
  rw [hk] at hdown
  have hkm : k + 1 ≤ m := by omega
  have hfirst : (2 * k + 1) * d ≤ 2 * n := by nlinarith
  have hsecond : 2 * n' ≤ (2 * k + 1) * d' := by nlinarith
  have htie : 2 * n = (2 * k + 1) * d := by
    have hscaled : 2 * n * d' ≤ (2 * k + 1) * d * d' := by nlinarith
    exact le_antisymm (Nat.le_of_mul_le_mul_right hscaled hd') hfirst
  have htie' : 2 * n' = (2 * k + 1) * d' := by
    have hscaled : (2 * k + 1) * d' * d ≤ 2 * n' * d := by nlinarith
    exact le_antisymm hsecond (Nat.le_of_mul_le_mul_right hscaled hd)
  have heven := divRound_even_of_tie hd htie
  have heven' := divRound_even_of_tie hd' htie'
  have hmk : m ≤ k + 1 := by
    have hscaled : m * d ≤ (k + 1) * d := by nlinarith
    exact Nat.le_of_mul_le_mul_right hscaled hd
  omega

end divRound

/-- The natural number nearest to a rational number that is not negative, a tie going to the even one. -/
def nearest (x : ℚ) : ℕ := divRound x.num.natAbs x.den

section nearest

variable {x y : ℚ}

private theorem natAbs_num_div_den (hx : 0 ≤ x) : (x.num.natAbs : ℚ) / x.den = x := by
  have hnum : ((x.num.natAbs : ℕ) : ℚ) = (x.num : ℚ) := by
    rw [← Int.cast_natCast, Int.natAbs_of_nonneg (Rat.num_nonneg.2 hx)]
  rw [hnum, Rat.num_div_den]

theorem divRound_eq_nearest {n d : ℕ} (hd : 0 < d) : divRound n d = nearest (n / d : ℚ) := by
  have hx : (0 : ℚ) ≤ n / d := by positivity
  have hden := (n / d : ℚ).den_pos
  have hcross : n * (n / d : ℚ).den = (n / d : ℚ).num.natAbs * d := by
    have heq := natAbs_num_div_den hx
    rw [div_eq_div_iff (by positivity) (by positivity)] at heq
    exact_mod_cast heq.symm
  exact le_antisymm (divRound_mono hd hden hcross.le) (divRound_mono hden hd hcross.ge)

private theorem nearest_mono (hx : 0 ≤ x) (hxy : x ≤ y) : nearest x ≤ nearest y := by
  refine divRound_mono x.den_pos y.den_pos ?_
  have hcross : (x.num.natAbs : ℚ) / x.den ≤ (y.num.natAbs : ℚ) / y.den := by
    rwa [natAbs_num_div_den hx, natAbs_num_div_den (hx.trans hxy)]
  rw [div_le_div_iff₀ (by exact_mod_cast x.den_pos) (by exact_mod_cast y.den_pos)] at hcross
  exact_mod_cast hcross

theorem abs_nearest_sub_le (hx : 0 ≤ x) : |(nearest x : ℚ) - x| ≤ 1 / 2 := by
  have hd : (0 : ℚ) < x.den := by exact_mod_cast x.den_pos
  have hup : (2 * (nearest x * x.den) : ℚ) ≤ 2 * x.num.natAbs + x.den := by
    exact_mod_cast two_mul_divRound_le x.den_pos
  have hdown : (2 * x.num.natAbs : ℚ) ≤ 2 * (nearest x * x.den) + x.den := by
    exact_mod_cast le_two_mul_divRound x.den_pos
  have hnum : (x.num.natAbs : ℚ) = x * x.den := by
    rw [← div_eq_iff hd.ne', natAbs_num_div_den hx]
  rw [hnum] at hup hdown
  rw [abs_le]
  constructor
  · by_contra hlt
    nlinarith
  · by_contra hlt
    nlinarith

private theorem nearest_eq_of_abs_lt {k : ℕ} (hx : 0 ≤ x) (h : |x - k| < 1 / 2) : nearest x = k := by
  have herror := abs_nearest_sub_le hx
  rw [abs_lt] at h
  rw [abs_le] at herror
  have hlow : (nearest x : ℚ) < k + 1 := by linarith
  have hhigh : (k : ℚ) < nearest x + 1 := by linarith
  have hlow' : nearest x < k + 1 := by exact_mod_cast hlow
  have hhigh' : k < nearest x + 1 := by exact_mod_cast hhigh
  omega

private theorem nearest_natCast (k : ℕ) : nearest k = k := nearest_eq_of_abs_lt (by positivity) (by simp)

end nearest

/-! ### Rounding to the format -/

/-- The exponent of the last binary place that a number of the size of `x` has in the format. -/
def unit (x : ℚ) : ℤ := max minExponent (Int.log 2 x - 52)

/-- The number of the format nearest to a rational number that is not negative, if there were no largest exponent. -/
def rounded (x : ℚ) : ℚ := nearest (x / 2 ^ unit x) * 2 ^ unit x

section rounded

variable {x y : ℚ}

theorem two_zpow_pos (e : ℤ) : (0 : ℚ) < 2 ^ e := by positivity

theorem two_zpow_mono {e f : ℤ} (h : e ≤ f) : (2 : ℚ) ^ e ≤ 2 ^ f := zpow_le_zpow_right₀ (by norm_num) h

private theorem two_zpow_add_natCast (e : ℤ) (k : ℕ) : (2 : ℚ) ^ (e + k) = 2 ^ k * 2 ^ e := by
  rw [zpow_add₀ (by norm_num), zpow_natCast, mul_comm]

private theorem scaled_nonneg (hx : 0 ≤ x) (e : ℤ) : 0 ≤ x / 2 ^ e := div_nonneg hx (two_zpow_pos e).le

private theorem unit_mono (hx : 0 < x) (hxy : x ≤ y) : unit x ≤ unit y :=
  max_le_max le_rfl (sub_le_sub_right (Int.log_mono_right hx hxy) 52)

private theorem minExponent_le_unit (x : ℚ) : minExponent ≤ unit x := le_max_left _ _

private theorem log_le_unit (x : ℚ) : Int.log 2 x - 52 ≤ unit x := le_max_right _ _

/-- A number is less than `2 ^ 53` of its units. -/
private theorem scaled_lt (x : ℚ) : x / 2 ^ unit x < 2 ^ 53 := by
  have hlog : x < 2 ^ (Int.log 2 x + 1) := by exact_mod_cast Int.lt_zpow_succ_log_self (b := 2) (by norm_num) x
  have hunit : (2 : ℚ) ^ (Int.log 2 x + 1) ≤ 2 ^ (unit x + (53 : ℕ)) := by
    refine two_zpow_mono ?_
    have := log_le_unit x
    push_cast
    omega
  rw [two_zpow_add_natCast] at hunit
  rw [div_lt_iff₀ (two_zpow_pos _)]
  linarith

/-- A number is at least `2 ^ 52` of its units, unless they are the least ones. -/
private theorem le_scaled (hx : 0 < x) (h : minExponent < unit x) : 2 ^ 52 ≤ x / 2 ^ unit x := by
  have hlog : (2 : ℚ) ^ Int.log 2 x ≤ x := by exact_mod_cast Int.zpow_log_le_self (b := 2) (by norm_num) hx
  have hunit : Int.log 2 x = unit x + (52 : ℕ) := by
    have : unit x = Int.log 2 x - 52 := by
      unfold unit at h ⊢
      omega
    push_cast
    omega
  rw [hunit, two_zpow_add_natCast] at hlog
  rwa [le_div_iff₀ (two_zpow_pos _)]

theorem nearest_scaled_le (hx : 0 ≤ x) : nearest (x / 2 ^ unit x) ≤ 2 ^ 53 := by
  have hle : x / 2 ^ unit x ≤ ((2 ^ 53 : ℕ) : ℚ) := by exact_mod_cast (scaled_lt x).le
  have hmono := nearest_mono (scaled_nonneg hx _) hle
  rwa [nearest_natCast] at hmono

private theorem le_nearest_scaled (hx : 0 < x) (h : minExponent < unit x) : 2 ^ 52 ≤ nearest (x / 2 ^ unit x) := by
  have hle : ((2 ^ 52 : ℕ) : ℚ) ≤ x / 2 ^ unit x := by exact_mod_cast le_scaled hx h
  have hmono := nearest_mono (Nat.cast_nonneg _) hle
  rwa [nearest_natCast] at hmono

theorem rounded_nonneg (x : ℚ) : 0 ≤ rounded x := by
  unfold rounded
  positivity

theorem rounded_mono (hx : 0 < x) (hxy : x ≤ y) : rounded x ≤ rounded y := by
  rcases (unit_mono hx hxy).eq_or_lt with heq | hlt
  · have hscaled : x / 2 ^ unit y ≤ y / 2 ^ unit y := div_le_div_of_nonneg_right hxy (two_zpow_pos _).le
    have hnearest : (nearest (x / 2 ^ unit y) : ℚ) ≤ nearest (y / 2 ^ unit y) := by
      exact_mod_cast nearest_mono (scaled_nonneg hx.le _) hscaled
    rw [rounded, rounded, heq]
    exact mul_le_mul_of_nonneg_right hnearest (two_zpow_pos _).le
  · -- a number with larger units is at least `2 ^ 52` of them, and one with smaller units at most as much
    have hy := le_nearest_scaled (hx.trans_le hxy) ((minExponent_le_unit x).trans_lt hlt)
    calc rounded x ≤ ((2 ^ 53 : ℕ) : ℚ) * 2 ^ unit x :=
          mul_le_mul_of_nonneg_right (by exact_mod_cast nearest_scaled_le hx.le) (two_zpow_pos _).le
      _ = ((2 ^ 52 : ℕ) : ℚ) * 2 ^ (unit x + (1 : ℕ)) := by
          rw [two_zpow_add_natCast]
          push_cast
          ring
      _ ≤ ((2 ^ 52 : ℕ) : ℚ) * 2 ^ unit y :=
          mul_le_mul_of_nonneg_left (two_zpow_mono (by push_cast; omega)) (Nat.cast_nonneg _)
      _ ≤ rounded y := mul_le_mul_of_nonneg_right (by exact_mod_cast hy) (two_zpow_pos _).le

/-- A number that has a place in the format: at most `2 ^ 53` units of some exponent. -/
def Representable (x : ℚ) : Prop := ∃ (m : ℕ) (e : ℤ), m ≤ 2 ^ 53 ∧ minExponent ≤ e ∧ x = m * 2 ^ e

private theorem rounded_of_scaled {k : ℕ} (h : x = k * 2 ^ unit x) : rounded x = x := by
  have hscaled : x / 2 ^ unit x = k := by
    rw [div_eq_iff (two_zpow_pos _).ne']
    exact h
  rw [rounded, hscaled, nearest_natCast]
  exact h.symm

theorem rounded_of_representable (h : Representable x) (hx : 0 < x) : rounded x = x := by
  obtain ⟨m, e, hm, he, hxe⟩ := h
  rcases le_or_gt (unit x) e with hle | hlt
  · obtain ⟨j, hj⟩ := Int.le.dest hle
    refine rounded_of_scaled (k := m * 2 ^ j) ?_
    calc x = m * 2 ^ e := hxe
      _ = ((m * 2 ^ j : ℕ) : ℚ) * 2 ^ unit x := by
          rw [← hj, two_zpow_add_natCast]
          push_cast
          ring
  · -- the units are larger than those given, so there are as many as there can be
    have hlow := le_scaled hx (he.trans_lt hlt)
    rw [le_div_iff₀ (two_zpow_pos _)] at hlow
    refine rounded_of_scaled (k := 2 ^ 52) (le_antisymm ?_ (by exact_mod_cast hlow))
    calc x = m * 2 ^ e := hxe
      _ ≤ 2 ^ 53 * 2 ^ e := mul_le_mul_of_nonneg_right (by exact_mod_cast hm) (two_zpow_pos _).le
      _ = 2 ^ 52 * 2 ^ (e + (1 : ℕ)) := by
          rw [two_zpow_add_natCast]
          ring
      _ ≤ ((2 ^ 52 : ℕ) : ℚ) * 2 ^ unit x := by
          push_cast
          exact mul_le_mul_of_nonneg_left (two_zpow_mono (by omega)) (by norm_num)

theorem rounded_zero : rounded 0 = 0 := by
  have hzero : nearest 0 = 0 := by exact_mod_cast nearest_natCast 0
  rw [rounded, zero_div, hzero, Nat.cast_zero, zero_mul]

theorem rounded_eq_self (h : Representable x) (hx : 0 ≤ x) : rounded x = x := by
  rcases hx.eq_or_lt with rfl | hx
  · exact rounded_zero
  · exact rounded_of_representable h hx

theorem representable_natCast {n : ℕ} (h : n ≤ 2 ^ 53) : Representable n :=
  ⟨n, 0, h, by decide, by simp⟩

theorem rounded_natCast {n : ℕ} (h : n ≤ 2 ^ 53) (hn : 0 < n) : rounded n = n :=
  rounded_of_representable (representable_natCast h) (by exact_mod_cast hn)

theorem representable_rounded (hx : 0 ≤ x) : Representable (rounded x) :=
  ⟨nearest (x / 2 ^ unit x), unit x, nearest_scaled_le hx, minExponent_le_unit x, rfl⟩

/-- A number is changed by at most half a unit. -/
private theorem abs_rounded_sub_le_unit (hx : 0 ≤ x) : |rounded x - x| ≤ 2 ^ unit x / 2 := by
  have herror := abs_nearest_sub_le (scaled_nonneg hx (unit x))
  have hsplit : rounded x - x = (nearest (x / 2 ^ unit x) - x / 2 ^ unit x) * 2 ^ unit x := by
    rw [sub_mul, div_mul_cancel₀ _ (two_zpow_pos _).ne']
    rfl
  rw [hsplit, abs_mul, abs_of_pos (two_zpow_pos (unit x))]
  have := mul_le_mul_of_nonneg_right herror (two_zpow_pos (unit x)).le
  linarith

/-- A number that is not tiny is changed by at most its `2 ^ 53`th part. -/
theorem abs_rounded_sub_le (hx : 1 ≤ x) : |rounded x - x| ≤ x / 2 ^ 53 := by
  have hlog : 0 ≤ Int.log 2 x := by
    have := (Int.zpow_le_iff_le_log (b := 2) (by norm_num) (zero_lt_one.trans_le hx) (x := 0)).1 (by simpa using hx)
    exact this
  have hunit : minExponent < unit x := lt_of_lt_of_le (by unfold minExponent; omega) (log_le_unit x)
  have hlow := le_scaled (zero_lt_one.trans_le hx) hunit
  rw [le_div_iff₀ (two_zpow_pos _)] at hlow
  have herror := abs_rounded_sub_le_unit (zero_le_one.trans hx)
  rw [le_div_iff₀ (by norm_num)]
  nlinarith

/-- Below `2 ^ j` a number is changed by at most half a unit of that size. -/
theorem abs_rounded_sub_le_of_lt {j : ℤ} (hx : 0 < x) (hlt : x < 2 ^ j) (hj : minExponent + 53 ≤ j) :
    |rounded x - x| ≤ 2 ^ (j - 53) / 2 := by
  have hlog : Int.log 2 x < j := (Int.lt_zpow_iff_log_lt (b := 2) (by norm_num) hx).1 (by exact_mod_cast hlt)
  have hunit : unit x ≤ j - 53 := by
    unfold unit
    omega
  have herror := abs_rounded_sub_le_unit hx.le
  have hmono := two_zpow_mono hunit
  linarith

/-- Below `2 ^ 53` the units are fractions of one. -/
private theorem exists_unit_mul_eq_one (hx : 0 < x) (hsmall : x < 2 ^ 53) : ∃ j : ℕ, (2 : ℚ) ^ unit x * 2 ^ j = 1 := by
  have hlog : Int.log 2 x < 53 := (Int.lt_zpow_iff_log_lt (b := 2) (by norm_num) hx).1 (by exact_mod_cast hsmall)
  have hneg : unit x = -(unit x).natAbs := by
    unfold unit minExponent
    omega
  refine ⟨(unit x).natAbs, ?_⟩
  rw [hneg, Int.natAbs_neg, Int.natAbs_natCast, zpow_neg, zpow_natCast, inv_mul_cancel₀ (by positivity)]

/-- A number that is nearer to a natural number than half of its unit is rounded to it. -/
theorem rounded_eq_of_abs_lt {k : ℕ} (hx : 0 < x) (hsmall : x < 2 ^ 53) (h : |x - k| < x / 2 ^ 54) : rounded x = k := by
  obtain ⟨j, hunit⟩ := exists_unit_mul_eq_one hx hsmall
  have hlow := scaled_lt x
  rw [div_lt_iff₀ (two_zpow_pos _)] at hlow
  have hnear : |x / 2 ^ unit x - ((k * 2 ^ j : ℕ) : ℚ)| < 1 / 2 := by
    have hsplit : x / 2 ^ unit x - ((k * 2 ^ j : ℕ) : ℚ) = (x - k) / 2 ^ unit x := by
      rw [eq_div_iff (two_zpow_pos _).ne', sub_mul, div_mul_cancel₀ _ (two_zpow_pos _).ne']
      push_cast
      rw [mul_assoc, mul_comm (2 ^ j : ℚ), hunit, mul_one]
    rw [hsplit, abs_div, abs_of_pos (two_zpow_pos _), div_lt_iff₀ (two_zpow_pos _)]
    linarith
  rw [rounded, nearest_eq_of_abs_lt (scaled_nonneg hx.le _) hnear]
  push_cast
  rw [mul_assoc, mul_comm (2 ^ j : ℚ), hunit, mul_one]

/-- What is half a unit short of the largest mantissa goes up to it, because it is even. -/
private theorem nearest_half_below : nearest (2 ^ 53 - 1 / 2) = 2 ^ 53 := by
  have hhalf : divRound (2 ^ 54 - 1) 2 = 2 ^ 53 := by decide
  rw [divRound_eq_nearest (by norm_num)] at hhalf
  rw [← hhalf]
  norm_num

private theorem le_nearest_of_sub_le {k : ℕ} (hlow : k - k / 2 ^ 54 ≤ x) (hx : x < 2 ^ 53) : k ≤ nearest x := by
  rcases lt_or_ge k (2 ^ 53) with hk | hk
  · have hk' : (k : ℚ) < 2 ^ 53 := by exact_mod_cast hk
    rcases le_or_gt (k : ℚ) x with hle | hlt
    · rw [← nearest_natCast k]
      exact nearest_mono (Nat.cast_nonneg k) hle
    · have hpos : (0 : ℚ) ≤ k := Nat.cast_nonneg k
      refine (nearest_eq_of_abs_lt (by linarith) ?_).ge
      rw [abs_sub_comm, abs_of_pos (by linarith)]
      linarith
  · have heq : k = 2 ^ 53 := by
      by_contra hne
      have hnext : (2 ^ 53 + 1 : ℚ) ≤ k := by exact_mod_cast Nat.lt_of_le_of_ne hk (Ne.symm hne)
      linarith
    subst heq
    rw [← nearest_half_below]
    refine nearest_mono (by norm_num) ?_
    push_cast at hlow
    linarith

/-- A number that is short of a natural number by at most its `2 ^ 54`th part is rounded up to it.  That part is half a
unit only below a power of two, where the tie goes to the power. -/
theorem le_rounded_of_sub_le {k : ℕ} (hk : k ≤ 2 ^ 53) (hx : 0 < x) (hlow : k - k / 2 ^ 54 ≤ x) : k ≤ rounded x := by
  rcases Nat.eq_zero_or_pos k with rfl | hpos
  · exact rounded_nonneg x
  rcases le_or_gt (k : ℚ) x with hle | hlt
  · rw [← rounded_natCast hk hpos]
    exact rounded_mono (by exact_mod_cast hpos) hle
  obtain ⟨j, hunit⟩ := exists_unit_mul_eq_one hx (hlt.trans_le (by exact_mod_cast hk))
  have hscaled : x / 2 ^ unit x = x * 2 ^ j := by
    rw [div_eq_iff (two_zpow_pos _).ne', mul_assoc, mul_comm (2 ^ j : ℚ), hunit, mul_one]
  have hmantissa : k * 2 ^ j ≤ nearest (x / 2 ^ unit x) := by
    refine le_nearest_of_sub_le ?_ (scaled_lt x)
    rw [hscaled]
    push_cast
    rw [mul_div_right_comm, ← sub_mul]
    exact mul_le_mul_of_nonneg_right hlow (by positivity)
  calc (k : ℚ) = ((k * 2 ^ j : ℕ) : ℚ) * 2 ^ unit x := by
        push_cast
        rw [mul_assoc, mul_comm (2 ^ j : ℚ), hunit, mul_one]
    _ ≤ rounded x := mul_le_mul_of_nonneg_right (by exact_mod_cast hmantissa) (two_zpow_pos _).le

/-- A quotient of natural numbers below `2 ^ 53` stays away from the next whole number by a part of the divisor, and no
rounding bridges that: rounded down it is the whole quotient. -/
theorem floor_rounded_natCast_div {n d : ℕ} (hn : n < 2 ^ 53) (hd : 0 < d) (hdle : d ≤ 2 ^ 53) :
    ⌊rounded (n / d : ℚ)⌋ = ((n / d : ℕ) : ℤ) := by
  have hd' : (0 : ℚ) < d := by exact_mod_cast hd
  rcases Nat.eq_zero_or_pos n with rfl | hpos
  · rw [Nat.cast_zero, zero_div, rounded_zero, Int.floor_zero, Nat.zero_div, Nat.cast_zero]
  have hn' : (n : ℚ) < 2 ^ 53 := by exact_mod_cast hn
  have hx : (0 : ℚ) < n / d := div_pos (by exact_mod_cast hpos) hd'
  have hgap : (n / d : ℚ) + 1 / d ≤ (n / d : ℕ) + 1 := by
    have hnext : n + 1 ≤ d * (n / d + 1) := Nat.lt_mul_div_succ n hd
    rw [← add_div, div_le_iff₀' hd']
    exact_mod_cast hnext
  have herror : |rounded (n / d : ℚ) - n / d| < 1 / d := by
    rcases le_or_gt 1 (n / d : ℚ) with hone | hone
    · refine (abs_rounded_sub_le hone).trans_lt ?_
      rw [div_div, div_lt_div_iff₀ (by positivity) hd']
      nlinarith
    · refine (abs_rounded_sub_le_of_lt (j := 0) hx (by simpa using hone) (by decide)).trans_lt ?_
      have hdle' : (d : ℚ) ≤ 2 ^ 53 := by exact_mod_cast hdle
      calc (2 ^ ((0 : ℤ) - 53) / 2 : ℚ) < 1 / 2 ^ 53 := by norm_num
        _ ≤ 1 / d := one_div_le_one_div_of_le hd' hdle'
  rw [Int.floor_eq_iff]
  constructor
  · rcases Nat.eq_zero_or_pos (n / d) with hzero | hquotient
    · rw [hzero]
      exact_mod_cast rounded_nonneg _
    · have hle : ((n / d : ℕ) : ℚ) ≤ n / d := Nat.cast_div_le
      rw [Int.cast_natCast, ← rounded_natCast ((Nat.div_le_self n d).trans hn.le) hquotient]
      exact rounded_mono (by exact_mod_cast hquotient) hle
  · rw [Int.cast_natCast]
    linarith [(abs_lt.1 herror).2]

/-- A number of at least `2 ^ 52` is rounded to a whole number. -/
theorem exists_rounded_eq_natCast (hx : 2 ^ 52 ≤ x) : ∃ n : ℕ, rounded x = n := by
  have hpos : (0 : ℚ) < x := lt_of_lt_of_le (by norm_num) hx
  have hlog : 52 ≤ Int.log 2 x :=
    (Int.zpow_le_iff_le_log (b := 2) (by norm_num) hpos (x := 52)).1 (by exact_mod_cast hx)
  obtain ⟨j, hj⟩ := Int.eq_ofNat_of_zero_le (show 0 ≤ unit x by have := log_le_unit x; omega)
  refine ⟨nearest (x / 2 ^ unit x) * 2 ^ j, ?_⟩
  rw [rounded, hj]
  push_cast
  rfl

end rounded

/-! ### The operations -/

section operations

variable {num den : ℕ}

theorem natPow_pos (k : ℕ) : 0 < Nat.pow 2 k := Nat.two_pow_pos k

theorem cast_natPow_toNat {e : ℤ} (he : 0 ≤ e) : ((Nat.pow 2 e.toNat : ℕ) : ℚ) = 2 ^ e := by
  obtain ⟨k, rfl⟩ := Int.eq_ofNat_of_zero_le he
  simp

theorem cast_natPow_toNat_neg {e : ℤ} (he : e ≤ 0) : ((Nat.pow 2 (-e).toNat : ℕ) : ℚ) = (2 ^ e)⁻¹ := by
  rw [cast_natPow_toNat (by omega), zpow_neg]

theorem scaledRound_eq (hden : 0 < den) (e : ℤ) : scaledRound num den e = nearest (num / den / 2 ^ e : ℚ) := by
  unfold scaledRound
  split
  next he =>
    rw [divRound_eq_nearest (Nat.mul_pos hden (natPow_pos _)), Nat.cast_mul, ← div_div, cast_natPow_toNat he]
  next he =>
    rw [divRound_eq_nearest hden, Nat.cast_mul, mul_div_right_comm, cast_natPow_toNat_neg (by omega), ← div_eq_mul_inv]

private theorem log_eq_of_le_of_lt {x : ℚ} {k : ℤ} (hle : 2 ^ k ≤ x) (hlt : x < 2 ^ (k + 1)) : Int.log 2 x = k := by
  have hx : 0 < x := (two_zpow_pos k).trans_le hle
  have hlow : k ≤ Int.log 2 x := (Int.zpow_le_iff_le_log (b := 2) (by norm_num) hx).1 (by exact_mod_cast hle)
  have hhigh : Int.log 2 x < k + 1 := (Int.lt_zpow_iff_log_lt (b := 2) (by norm_num) hx).1 (by exact_mod_cast hlt)
  omega

private theorem zpow_log2_le {n : ℕ} (hn : 0 < n) : (2 : ℚ) ^ (Nat.log2 n : ℤ) ≤ n := by
  rw [zpow_natCast]
  exact_mod_cast Nat.log2_self_le hn.ne'

private theorem lt_zpow_log2 (n : ℕ) : (n : ℚ) < 2 ^ ((Nat.log2 n : ℤ) + 1) := by
  have hlt : n < 2 ^ (Nat.log2 n + 1) := Nat.lt_log2_self
  exact_mod_cast hlt

/-- The lengths of the numerator and the denominator give the logarithm of a quotient up to one. -/
private theorem div_mem_of_log2 (hnum : 0 < num) (hden : 0 < den) :
    2 ^ ((Nat.log2 num : ℤ) - Nat.log2 den - 1) ≤ (num / den : ℚ) ∧
      (num / den : ℚ) < 2 ^ ((Nat.log2 num : ℤ) - Nat.log2 den + 1) := by
  have hpos : (0 : ℚ) < den := by exact_mod_cast hden
  rw [le_div_iff₀ hpos, div_lt_iff₀ hpos]
  constructor
  · calc (2 : ℚ) ^ ((Nat.log2 num : ℤ) - Nat.log2 den - 1) * den
        ≤ 2 ^ ((Nat.log2 num : ℤ) - Nat.log2 den - 1) * 2 ^ ((Nat.log2 den : ℤ) + 1) :=
          mul_le_mul_of_nonneg_left (lt_zpow_log2 den).le (two_zpow_pos _).le
      _ = 2 ^ (Nat.log2 num : ℤ) := by
          rw [← zpow_add₀ (by norm_num)]
          congr 1
          ring
      _ ≤ num := zpow_log2_le hnum
  · calc (num : ℚ) < 2 ^ ((Nat.log2 num : ℤ) + 1) := lt_zpow_log2 num
      _ = 2 ^ ((Nat.log2 num : ℤ) - Nat.log2 den + 1) * 2 ^ (Nat.log2 den : ℤ) := by
          rw [← zpow_add₀ (by norm_num)]
          congr 1
          ring
      _ ≤ 2 ^ ((Nat.log2 num : ℤ) - Nat.log2 den + 1) * den :=
          mul_le_mul_of_nonneg_left (zpow_log2_le hden) (two_zpow_pos _).le

theorem floorLog_eq (hnum : 0 < num) (hden : 0 < den) : floorLog num den = Int.log 2 (num / den : ℚ) := by
  obtain ⟨hlow, hhigh⟩ := div_mem_of_log2 hnum hden
  have hpos : (0 : ℚ) < den := by exact_mod_cast hden
  unfold floorLog
  generalize (Nat.log2 num : ℤ) - Nat.log2 den = k at hlow hhigh
  have hbelow : (if 0 ≤ k then num < den * Nat.pow 2 k.toNat else num * Nat.pow 2 (-k).toNat < den) ↔
      (num / den : ℚ) < 2 ^ k := by
    rw [div_lt_iff₀ hpos]
    split
    next hk => rw [← cast_natPow_toNat hk, mul_comm, ← Nat.cast_mul, Nat.cast_lt]
    next hk =>
      rw [← inv_mul_lt_iff₀ (two_zpow_pos k), ← cast_natPow_toNat_neg (by omega), mul_comm, ← Nat.cast_mul, Nat.cast_lt]
  simp only [hbelow]
  split
  next h => exact (log_eq_of_le_of_lt hlow (by simpa using h)).symm
  next h => exact (log_eq_of_le_of_lt (not_lt.1 h) hhigh).symm

/-- The rational number that a finite number stands for. -/
def value? : Binary64 → Option ℚ
  | .finite s m e => some (signed s m * 2 ^ e)
  | _ => none

/-- The first power of two that is too large for a finite number. -/
def limit : ℚ := 2 ^ (maxExponent + (53 : ℕ))

/-- What a rational number that is not negative becomes in the format. -/
def Rounds (q : ℚ) (x : Binary64) : Prop :=
  if rounded q < limit then x.value? = some (rounded q) else x = .infinity false

theorem Rounds.cases {x : Binary64} {q : ℚ} (h : Rounds q x) :
    (rounded q < limit ∧ x.value? = some (rounded q)) ∨ (limit ≤ rounded q ∧ x = .infinity false) := by
  unfold Rounds at h
  split at h
  next hlt => exact .inl ⟨hlt, h⟩
  next hle => exact .inr ⟨not_lt.1 hle, h⟩

theorem Rounds.value? {x : Binary64} {q : ℚ} (h : Rounds q x) (hlt : rounded q < limit) :
    x.value? = some (rounded q) := by
  rwa [Rounds, if_pos hlt] at h

/-- Packing keeps the value, unless it is too large for a finite number. -/
private theorem value?_pack {m : ℕ} {e : ℤ} (hm : m ≤ 2 ^ 53) (hnormal : minExponent < e → 2 ^ 52 ≤ m) :
    if (m * 2 ^ e : ℚ) < limit then (pack false m e).value? = some (m * 2 ^ e : ℚ)
    else pack false m e = .infinity false := by
  -- a carry out of the mantissa goes to the exponent
  obtain ⟨n, f, hpack, hvalue, hn, hf⟩ : ∃ (n : ℕ) (f : ℤ),
      pack false m e = (if maxExponent < f then .infinity false else .finite false n f) ∧
        (m * 2 ^ e : ℚ) = n * 2 ^ f ∧ n < 2 ^ 53 ∧ (minExponent < f → 2 ^ 52 ≤ n) := by
    by_cases hcarry : m = Nat.pow 2 53
    · refine ⟨2 ^ 52, e + 1, by simp [pack, hcarry], ?_, by norm_num, fun _ => le_rfl⟩
      rw [hcarry, zpow_add_one₀ (by norm_num)]
      push_cast [Nat.pow_eq]
      ring
    · exact ⟨m, e, by simp [pack, hcarry], rfl, lt_of_le_of_ne hm hcarry, hnormal⟩
  have hsmall : (n * 2 ^ f : ℚ) < limit ↔ ¬ maxExponent < f := by
    rw [limit, two_zpow_add_natCast]
    constructor
    · intro hlt hlarge
      have hn : (2 ^ 52 : ℚ) ≤ n := by exact_mod_cast hf (lt_trans (by decide) hlarge)
      have htwice : (2 : ℚ) * 2 ^ maxExponent ≤ 2 ^ f := by
        rw [mul_comm, ← zpow_add_one₀ (by norm_num)]
        exact two_zpow_mono hlarge
      nlinarith [two_zpow_pos maxExponent]
    · intro hle
      have hn : (n : ℚ) < 2 ^ 53 := by exact_mod_cast hn
      exact mul_lt_mul hn (two_zpow_mono (not_lt.1 hle)) (two_zpow_pos f) (by norm_num)
  rw [hpack, hvalue]
  simp only [hsmall]
  split_ifs <;> rfl

theorem limit_pos : 0 < limit := two_zpow_pos _

theorem rounded_le_two_pow {x : ℚ} {j : ℕ} (hx : 0 ≤ x) (h : x ≤ 2 ^ j) : rounded x ≤ 2 ^ j := by
  rcases hx.eq_or_lt with rfl | hx
  · rwa [rounded_zero]
  · have hpower : rounded ((2 : ℚ) ^ j) = 2 ^ j :=
      rounded_of_representable ⟨1, j, by norm_num, by unfold minExponent; omega, by simp⟩ (by positivity)
    rw [← hpower]
    exact rounded_mono hx h

theorem two_pow_lt_limit {j : ℕ} (hj : j < 1024) : (2 : ℚ) ^ j < limit := by
  rw [← zpow_natCast, limit]
  exact zpow_lt_zpow_right₀ (by norm_num) (by unfold maxExponent; push_cast; omega)

theorem rounded_lt_limit {n j : ℕ} (h : n ≤ 2 ^ j) (hj : j < 1024) : rounded n < limit :=
  (rounded_le_two_pow (Nat.cast_nonneg n) (by exact_mod_cast h)).trans_lt (two_pow_lt_limit hj)

theorem natCast_lt_limit {n : ℕ} (h : n < 2 ^ 53) : (n : ℚ) < limit := by
  have hlimit : (2 : ℚ) ^ 53 ≤ limit := by
    rw [limit, ← zpow_natCast]
    exact two_zpow_mono (by decide)
  exact lt_of_lt_of_le (by exact_mod_cast h) hlimit

theorem rounds_ofQuotient (num : ℕ) (hden : 0 < den) : Rounds (num / den) (ofQuotient false num den) := by
  rcases Nat.eq_zero_or_pos num with rfl | hnum
  · simp [Rounds, rounded_zero, limit_pos, ofQuotient, value?, signed]
  · have hpos : (0 : ℚ) < num / den := by positivity
    have hunit : max minExponent (floorLog num den - 52) = unit (num / den) := by rw [floorLog_eq hnum hden, unit]
    simp only [ofQuotient, hnum.ne', if_false, hunit, scaledRound_eq hden]
    exact value?_pack (nearest_scaled_le hpos.le) (le_nearest_scaled hpos)

theorem exists_finite_of_value? {x : Binary64} {q : ℚ} (h : x.value? = some q) :
    ∃ s m e, x = .finite s m e ∧ q = signed s m * 2 ^ e := by
  cases x with
  | finite s m e => exact ⟨s, m, e, rfl, (Option.some.inj h).symm⟩
  | infinity s => cases h
  | nan => cases h

/-- A positive value comes from a positive sign. -/
theorem eq_finite_of_value? {x : Binary64} {q : ℚ} (h : x.value? = some q) (hq : 0 < q) :
    ∃ m e, x = .finite false m e ∧ q = m * 2 ^ e := by
  obtain ⟨s, m, e, rfl, rfl⟩ := exists_finite_of_value? h
  cases s with
  | false => exact ⟨m, e, rfl, rfl⟩
  | true =>
    have hneg : (signed true m : ℚ) ≤ 0 := by simp [signed]
    exact absurd hq (not_lt.2 (mul_nonpos_of_nonpos_of_nonneg hneg (two_zpow_pos e).le))

theorem rounds_ofScaled (m : ℕ) (e : ℤ) : Rounds (m * 2 ^ e) (ofScaled false m e) := by
  unfold ofScaled
  split
  next he =>
    have h := rounds_ofQuotient (m * Nat.pow 2 e.toNat) one_pos
    rwa [Nat.cast_mul, cast_natPow_toNat he, Nat.cast_one, div_one] at h
  next he =>
    have h := rounds_ofQuotient m (natPow_pos (-e).toNat)
    rwa [cast_natPow_toNat_neg (by omega), div_inv_eq_mul] at h

theorem rounds_mul {x y : Binary64} {p q : ℚ} (hx : x.value? = some p) (hy : y.value? = some q) (hp : 0 < p)
    (hq : 0 < q) : Rounds (p * q) (x.mul y) := by
  obtain ⟨m, e, rfl, rfl⟩ := eq_finite_of_value? hx hp
  obtain ⟨n, f, rfl, rfl⟩ := eq_finite_of_value? hy hq
  have h := rounds_ofScaled (m * n) (e + f)
  rwa [Nat.cast_mul, zpow_add₀ (by norm_num), mul_mul_mul_comm] at h

theorem rounds_div {x y : Binary64} {p q : ℚ} (hx : x.value? = some p) (hy : y.value? = some q) (hp : 0 < p)
    (hq : 0 < q) : ∃ z, x.div? y = some z ∧ Rounds (p / q) z := by
  obtain ⟨m, e, rfl, rfl⟩ := eq_finite_of_value? hx hp
  obtain ⟨n, f, rfl, rfl⟩ := eq_finite_of_value? hy hq
  have hn : 0 < n := by
    rw [Nat.pos_iff_ne_zero]
    rintro rfl
    simp at hq
  have hsplit : (m * 2 ^ e / (n * 2 ^ f) : ℚ) = m * 2 ^ (e - f) / n := by
    rw [zpow_sub₀ (by norm_num)]
    field_simp
  have hnonzero : (finite false n f).isZero = false := by simp [isZero, hn.ne']
  rw [hsplit]
  simp only [div?, hnonzero, Bool.false_eq_true, if_false, Option.some.injEq, exists_eq_left', bne_self_eq_false]
  split
  next hle =>
    have h := rounds_ofQuotient (m * Nat.pow 2 (e - f).toNat) hn
    rwa [Nat.cast_mul, cast_natPow_toNat (by omega)] at h
  next hlt =>
    have h := rounds_ofQuotient m (Nat.mul_pos hn (natPow_pos (f - e).toNat))
    rwa [Nat.cast_mul, cast_natPow_toNat (by omega), ← div_div, div_right_comm, div_eq_mul_inv _ (2 ^ (f - e) : ℚ),
      ← zpow_neg, neg_sub] at h

/-- The fraction of a finite number has its value. -/
theorem fraction?_eq_some {x : Binary64} {q : ℚ} (h : x.value? = some q) :
    ∃ (n : ℤ) (d : ℕ), x.fraction? = some (n, d) ∧ 0 < d ∧ q = n / d := by
  obtain ⟨s, m, e, rfl, rfl⟩ := exists_finite_of_value? h
  by_cases he : 0 ≤ e
  · refine ⟨signed s (m * Nat.pow 2 e.toNat), 1, by simp only [fraction?, he, if_true], one_pos, ?_⟩
    cases s <;> simp [signed, ← cast_natPow_toNat he]
  · refine ⟨signed s m, Nat.pow 2 (-e).toNat, by simp only [fraction?, he, if_false], natPow_pos _, ?_⟩
    rw [cast_natPow_toNat_neg (by omega), div_inv_eq_mul]

theorem floor?_eq {x : Binary64} {q : ℚ} (h : x.value? = some q) : x.floor? = some ⌊q⌋ := by
  obtain ⟨n, d, hfraction, hd, rfl⟩ := fraction?_eq_some h
  rw [floor?, hfraction, Option.map_some, Rat.floor_intCast_div_natCast, Int.fdiv_eq_ediv_of_nonneg _ (by positivity)]

theorem ceil?_eq {x : Binary64} {q : ℚ} (h : x.value? = some q) : x.ceil? = some ⌈q⌉ := by
  obtain ⟨n, d, hfraction, hd, rfl⟩ := fraction?_eq_some h
  have hneg : -(n / d : ℚ) = ((-n : ℤ) : ℚ) / (d : ℚ) := by rw [Int.cast_neg, neg_div]
  rw [ceil?, hfraction, Option.map_some, ← neg_neg (n / d : ℚ), Int.ceil_neg, hneg, Rat.floor_intCast_div_natCast,
    Int.fdiv_eq_ediv_of_nonneg _ (by positivity)]

private theorem compareFractions_eq {k n : ℤ} {d : ℕ} (hd : 0 < d) :
    compareFractions (k, d) (n, 1) = compare (k / d : ℚ) n := by
  have hpos : (0 : ℚ) < d := by exact_mod_cast hd
  have hcross : compareFractions (k, d) (n, 1) = compare k (n * d) := by simp [compareFractions]
  rw [hcross]
  rcases lt_trichotomy (k / d : ℚ) n with hlt | heq | hgt
  · rw [compare_lt_iff_lt.2 hlt]
    rw [div_lt_iff₀ hpos] at hlt
    exact compare_lt_iff_lt.2 (by exact_mod_cast hlt)
  · rw [compare_eq_iff_eq.2 heq]
    rw [div_eq_iff hpos.ne'] at heq
    exact compare_eq_iff_eq.2 (by exact_mod_cast heq)
  · rw [compare_gt_iff_gt.2 hgt]
    rw [lt_div_iff₀ hpos] at hgt
    exact compare_gt_iff_gt.2 (by exact_mod_cast hgt)

theorem compareInt?_eq {x : Binary64} {q : ℚ} (h : x.value? = some q) (n : ℤ) :
    x.compareInt? n = some (compare q n) := by
  obtain ⟨k, d, hfraction, hd, rfl⟩ := fraction?_eq_some h
  obtain ⟨s, m, e, rfl, -⟩ := exists_finite_of_value? h
  simp [compareInt?, hfraction, compareFractions_eq hd]

end operations

end Docsmith.Binary64
