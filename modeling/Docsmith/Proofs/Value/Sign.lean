import Docsmith.Proofs.Binary64.Signed
import Docsmith.Proofs.Value.Amount

/-!
# Signs

A number that is not negative is a natural number, a binary64 number from zero on, an infinity or not a number at all;
zeros count with either sign.  Sums, products and quotients of such numbers are such numbers again, whatever overflows
on the way (`NotNegative.add`, `NotNegative.mul`, `NotNegative.div`).  What an operation on binary64 numbers gives has
been rounded to the format (`Settled`), so that a part of it, rounded in turn, is not more than the whole
(`floor_part_le_ceil`).
-/

namespace Docsmith

/-! ### Binary64 numbers -/

namespace Binary64

/-- Not below zero. -/
inductive NotNegative : Binary64 → Prop
  | nan : NotNegative .nan
  | infinity : NotNegative (.infinity false)
  | finite {x : Binary64} {q : ℚ} (hx : x.value? = some q) (hq : 0 ≤ q) : NotNegative x

/-- The result of an operation: not below zero and, if finite, rounded to the format. -/
inductive Settled : Binary64 → Prop
  | nan : Settled .nan
  | infinity : Settled (.infinity false)
  | finite {x : Binary64} {q : ℚ} (hq : 0 ≤ q) (hlt : rounded q < limit) (hx : x.value? = some (rounded q)) : Settled x

section signs

variable {x y z : Binary64} {p q : ℚ}

theorem Settled.notNegative (h : Settled x) : NotNegative x := by
  cases h with
  | nan => exact .nan
  | infinity => exact .infinity
  | finite hq hlt hx => exact .finite hx (rounded_nonneg _)

private theorem Rounds.settled (h : Rounds q x) (hq : 0 ≤ q) : Settled x := by
  rcases h.cases with ⟨hlt, hx⟩ | ⟨-, rfl⟩
  · exact .finite hq hlt hx
  · exact .infinity

private theorem settled_zero (s : Bool) : Settled (zero s) := (rounds_zero (value?_zero s)).settled le_rfl

private theorem isZero_or_isNegative_eq (hx : x.value? = some q) (hq : 0 ≤ q) :
    x.isZero = true ∨ x.isNegative = false := by
  obtain ⟨s, m, e, rfl, rfl⟩ := exists_finite_of_value? hx
  rcases eq_false_or_eq_zero hq with rfl | rfl
  · exact .inr rfl
  · exact .inl rfl

/-- An infinity times a finite number is an infinity, unless the number is zero. -/
private theorem settled_infinity_mul (hx : x.value? = some q) (hq : 0 ≤ q) :
    Settled ((infinity false).mul x) ∧ Settled (x.mul (infinity false)) := by
  obtain ⟨s, m, e, rfl, -⟩ := exists_finite_of_value? hx
  rcases isZero_or_isNegative_eq hx hq with hzero | hsign
  · simp only [mul, hzero, if_true]
    exact ⟨.nan, .nan⟩
  · simp only [mul, hsign]
    constructor <;> split_ifs
    exacts [.nan, .infinity, .nan, .infinity]

theorem NotNegative.mul (hx : NotNegative x) (hy : NotNegative y) : Settled (x.mul y) := by
  cases hx with
  | nan => exact .nan
  | infinity =>
    cases hy with
    | nan => exact .nan
    | infinity => exact .infinity
    | finite hy hq => exact (settled_infinity_mul hy hq).1
  | finite hx hp =>
    cases hy with
    | nan =>
      obtain ⟨s, m, e, rfl, -⟩ := exists_finite_of_value? hx
      exact .nan
    | infinity => exact (settled_infinity_mul hx hp).2
    | finite hy hq => exact (rounds_mul_of_nonneg hx hy hp hq).settled (mul_nonneg hp hq)

private theorem NotNegative.add (hx : NotNegative x) (hy : NotNegative y) : Settled (x.add y) := by
  cases hx with
  | nan => exact .nan
  | infinity =>
    cases hy with
    | nan => exact .nan
    | infinity => exact .infinity
    | finite hy hq =>
      obtain ⟨s, m, e, rfl, -⟩ := exists_finite_of_value? hy
      exact .infinity
  | finite hx hp =>
    cases hy with
    | nan =>
      obtain ⟨s, m, e, rfl, -⟩ := exists_finite_of_value? hx
      exact .nan
    | infinity =>
      obtain ⟨s, m, e, rfl, -⟩ := exists_finite_of_value? hx
      exact .infinity
    | finite hy hq => exact (rounds_add_of_nonneg hx hy hp hq).settled (add_nonneg hp hq)

private theorem NotNegative.div (hx : NotNegative x) (hy : NotNegative y) (h : x.div? y = some z) : Settled z := by
  have hnonzero : y.isZero = false := by
    by_contra hzero
    simp [div?, hzero] at h
  cases hy with
  | nan =>
    cases x <;> cases h <;> exact .nan
  | infinity =>
    cases hx with
    | nan =>
      cases h
      exact .nan
    | infinity =>
      cases h
      exact .nan
    | finite hx hp =>
      obtain ⟨s, m, e, rfl, -⟩ := exists_finite_of_value? hx
      cases h
      exact settled_zero _
  | @finite _ q hy hq =>
    have hpos : 0 < q := by
      refine lt_of_le_of_ne hq fun hzero => ?_
      obtain ⟨t, n, f, rfl, -⟩ := exists_finite_of_value? hy
      rw [← hzero] at hy
      simp [isZero, eq_zero_of_value?_eq_zero hy] at hnonzero
    cases hx with
    | nan =>
      rw [div?, hnonzero] at h
      cases h
      exact .nan
    | infinity =>
      obtain ⟨n, f, rfl, -⟩ := eq_finite_of_value? hy hpos
      rw [div?, hnonzero] at h
      cases h
      exact .infinity
    | finite hx hp =>
      obtain ⟨w, hw, hround⟩ := rounds_div_of_nonneg hx hy hp hpos
      cases hw.symm.trans h
      exact hround.settled (div_nonneg hp hq)

theorem NotNegative.roundPlaces (places : ℕ) (hx : NotNegative x) : NotNegative (x.roundPlaces places) := by
  cases hx with
  | nan => exact .nan
  | infinity => exact .infinity
  | finite hx hq =>
    obtain ⟨s, m, e, rfl, rfl⟩ := exists_finite_of_value? hx
    rcases eq_false_or_eq_zero hq with rfl | rfl
    · obtain ⟨g, hg, -⟩ := exists_roundPlaces_eq places false m e
      rw [hg]
      exact ((rounds_ofQuotient g (Nat.pow_pos (by norm_num))).settled (by positivity)).notNegative
    · have hzero : (Binary64.finite s 0 e).roundPlaces places = zero s := by
        simp only [Binary64.roundPlaces, abs, fraction?]
        split_ifs <;> simp [signed, divRound, ofQuotient, zero]
      rw [hzero]
      exact (settled_zero s).notNegative

end signs

end Binary64

/-! ### Values -/

namespace Value

open Binary64

/-- Not below zero. -/
def Number.NotNegative : Number → Prop
  | .int n => 0 ≤ n
  | .float x => Binary64.NotNegative x

/-- A number that is not below zero. -/
def NotNegative (v : Value) : Prop := ∃ n, v.number? = some n ∧ n.NotNegative

section signs

variable {a b c v w : Value} {m n r : Number} {x z : Binary64} {q : ℚ}

theorem notNegative_int {k : ℤ} (h : 0 ≤ k) : (Value.int k).NotNegative := ⟨.int k, rfl, h⟩

theorem notNegative_float (h : Binary64.NotNegative x) : (Value.float x).NotNegative := ⟨.float x, rfl, h⟩

theorem notNegative_decimal (digits places : ℕ) : (Value.decimal digits places).NotNegative := by
  refine notNegative_float ?_
  unfold ofDecimal
  split
  · exact ((rounds_ofQuotient _ one_pos).settled (by positivity)).notNegative
  · exact ((rounds_ofQuotient _ (Nat.pow_pos (by norm_num))).settled (by positivity)).notNegative

theorem notNegative_of_amount? (h : v.amount? = some q) (hq : 0 ≤ q) : v.NotNegative := by
  obtain ⟨n, hn, hnq⟩ := Option.bind_eq_some_iff.1 h
  refine ⟨n, hn, ?_⟩
  cases n with
  | int n =>
    cases hnq
    exact_mod_cast hq
  | float x => exact .finite hnq hq

/-- What the order of values says is at least zero. -/
theorem notNegative_of_le (h : (Value.int 0).le v = .ok true) : v.NotNegative := by
  cases v with
  | int k =>
    rw [le_of_number? rfl rfl, Except.ok.injEq, decide_eq_true_iff] at h
    exact notNegative_int h
  | bool t => exact ⟨_, rfl, by cases t <;> simp [Number.NotNegative]⟩
  | float x =>
    cases x with
    | finite s m e =>
      rw [int_le_float (x := .finite s m e) rfl, Except.ok.injEq, decide_eq_true_iff] at h
      exact notNegative_float (.finite rfl (by exact_mod_cast h))
    | infinity s =>
      cases s with
      | false => exact notNegative_float .infinity
      | true => cases h
    | nan => cases h
  | _ => cases h

private theorem Number.NotNegative.toBinary64 (hn : n.NotNegative) (h : n.toBinary64 = .ok x) :
    Binary64.NotNegative x := by
  cases n with
  | float y =>
    cases h
    exact hn
  | int k =>
    obtain ⟨k, rfl⟩ := Int.eq_ofNat_of_zero_le hn
    rcases toBinary64_natCast k with ⟨-, y, hy, hsome⟩ | ⟨-, herror⟩
    · cases hsome.symm.trans h
      exact .finite hy (rounded_nonneg _)
    · cases herror.symm.trans h

/-- An operation that keeps the sign of integers and of binary64 numbers keeps that of numbers. -/
private theorem Number.NotNegative.combine {exact : ℤ → ℤ → ℤ} {rounded : Binary64 → Binary64 → Binary64}
    (hexact : ∀ {i j}, 0 ≤ i → 0 ≤ j → 0 ≤ exact i j)
    (hrounded : ∀ {x y}, Binary64.NotNegative x → Binary64.NotNegative y → Binary64.NotNegative (rounded x y))
    (hm : m.NotNegative) (hn : n.NotNegative) (h : Number.combine exact rounded m n = .ok r) : r.NotNegative := by
  by_cases hints : ∃ i j, m = .int i ∧ n = .int j
  · obtain ⟨i, j, rfl, rfl⟩ := hints
    cases h
    exact hexact hm hn
  · rw [Number.combine] at h
    · simp only [Outcome.bind_eq_ok] at h
      obtain ⟨x, hx, y, hy, h⟩ := h
      cases h
      exact hrounded (hm.toBinary64 hx) (hn.toBinary64 hy)
    · exact fun i j hi hj => hints ⟨i, j, hi, hj⟩

private theorem notNegative_ofNumber (h : n.NotNegative) : (ofNumber n).NotNegative := by
  cases n <;> exact ⟨_, rfl, h⟩

theorem NotNegative.mul (ha : a.NotNegative) (hb : b.NotNegative) (h : a.mul b = .ok c) : c.NotNegative := by
  obtain ⟨m, hm, hms⟩ := ha
  obtain ⟨n, hn, hns⟩ := hb
  rw [mul_of_number? hm hn, Outcome.map_eq_ok] at h
  obtain ⟨r, hr, rfl⟩ := h
  refine notNegative_ofNumber (Number.NotNegative.combine ?_ ?_ hms hns hr)
  · exact fun hi hj => mul_nonneg hi hj
  · exact fun hx hy => (hx.mul hy).notNegative

theorem NotNegative.add (ha : a.NotNegative) (hb : b.NotNegative) (h : a.add b = .ok c) : c.NotNegative := by
  obtain ⟨m, hm, hms⟩ := ha
  obtain ⟨n, hn, hns⟩ := hb
  rw [add_of_number? hm hn, Outcome.map_eq_ok] at h
  obtain ⟨r, hr, rfl⟩ := h
  refine notNegative_ofNumber (Number.NotNegative.combine ?_ ?_ hms hns hr)
  · exact fun hi hj => add_nonneg hi hj
  · exact fun hx hy => (hx.add hy).notNegative

private theorem Number.NotNegative.div_int {i j : ℤ} (hi : 0 ≤ i) (hj : 0 ≤ j)
    (h : (Number.int i).div (.int j) = .ok r) : ∃ z, r = .float z ∧ Settled z := by
  obtain ⟨i, rfl⟩ := Int.eq_ofNat_of_zero_le hi
  obtain ⟨j, rfl⟩ := Int.eq_ofNat_of_zero_le hj
  rcases Nat.eq_zero_or_pos j with rfl | hpos
  · cases h
  have hdiv : (Value.int i).div (.int j) = .ok (ofNumber r) := by
    rw [div_of_number? rfl rfl, h]
    rfl
  rcases int_div_int i hpos with ⟨hlt, x, hx, hfloat⟩ | ⟨-, herror⟩
  · have heq := Except.ok.inj (hfloat.symm.trans hdiv)
    cases r with
    | int k => cases heq
    | float z =>
      cases heq
      exact ⟨x, rfl, .finite (div_nonneg (Nat.cast_nonneg i) (Nat.cast_nonneg j)) hlt hx⟩
  · cases herror.symm.trans hdiv

/-- A quotient is always a binary64 number. -/
theorem NotNegative.exists_div (ha : a.NotNegative) (hb : b.NotNegative) (h : a.div b = .ok c) :
    ∃ z, c = .float z ∧ Settled z := by
  obtain ⟨m, hm, hms⟩ := ha
  obtain ⟨n, hn, hns⟩ := hb
  rw [div_of_number? hm hn, Outcome.map_eq_ok] at h
  obtain ⟨r, hr, rfl⟩ := h
  obtain ⟨z, rfl, hz⟩ : ∃ z, r = .float z ∧ Settled z := by
    by_cases hints : ∃ i j, m = .int i ∧ n = .int j
    · obtain ⟨i, j, rfl, rfl⟩ := hints
      exact Number.NotNegative.div_int hms hns hr
    · rw [Number.div] at hr
      · simp only [Outcome.bind_eq_ok] at hr
        obtain ⟨x, hx, y, hy, hr⟩ := hr
        split at hr
        next z hz =>
          cases hr
          exact ⟨z, rfl, (hms.toBinary64 hx).div (hns.toBinary64 hy) hz⟩
        next => cases hr
      · exact fun i j hi hj => hints ⟨i, j, hi, hj⟩
  exact ⟨z, rfl, hz⟩

theorem NotNegative.div (ha : a.NotNegative) (hb : b.NotNegative) (h : a.div b = .ok c) : c.NotNegative := by
  obtain ⟨z, rfl, hz⟩ := ha.exists_div hb h
  exact notNegative_float hz.notNegative

/-- Part of a number that has been rounded to the format, rounded and then rounded down, and the number rounded up. -/
theorem floor_part_le_ceil {part : Binary64} {lo hi : ℤ} (hz : Settled z) (hpart : (Value.float part).Within 0)
    (hmul : (Value.float part).mul (.float z) = .ok w) (hlo : w.floor = .ok lo)
    (hhi : (Value.float z).ceil = .ok hi) : 0 ≤ lo ∧ lo ≤ hi := by
  obtain ⟨q, hpart, hq, hle⟩ := hpart
  rw [pow_zero] at hle
  have hproduct : (Value.float part).mul (.float z) = .ok (.float (part.mul z)) := rfl
  cases hproduct.symm.trans hmul
  cases hz with
  | nan => cases hhi
  | infinity => cases hhi
  | @finite _ r hr hlt hx =>
    have hround := rounds_mul_of_nonneg hpart hx hq (rounded_nonneg r)
    have hle' : rounded (q * rounded r) ≤ rounded r := by
      rcases (mul_nonneg hq (rounded_nonneg r)).eq_or_lt with hzero | hpos
      · rw [← hzero, rounded_zero]
        exact rounded_nonneg r
      · have hmono := rounded_mono hpos (mul_le_of_le_one_left (rounded_nonneg r) hle)
        rwa [rounded_eq_self (representable_rounded hr) (rounded_nonneg r)] at hmono
    cases (floor_float (hround.value? (hle'.trans_lt hlt))).symm.trans hlo
    cases (ceil_float hx).symm.trans hhi
    exact ⟨Int.floor_nonneg.2 (rounded_nonneg _), (Int.floor_mono hle').trans (Int.floor_le_ceil _)⟩

end signs

end Value

end Docsmith
