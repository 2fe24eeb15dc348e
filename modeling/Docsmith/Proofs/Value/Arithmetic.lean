import Docsmith.Proofs.Binary64.Rounding
import Docsmith.Proofs.Change
import Docsmith.Value.Arithmetic

/-!
# Sizes of numbers

Order, rounding down, products and quotients of values, in terms of the rational numbers that they stand for.
-/

namespace Docsmith.Value

open Binary64

section order

variable {x : Binary64} {q : ℚ}

private theorem before_of_compare? {a b : Value} {m n : Number} {o : Ordering} (ha : a.number? = some m)
    (hb : b.number? = some n) (h : m.compare? n = some o) (orEqual : Bool) :
    before orEqual a b = .ok (o == .lt || orEqual && o == .eq) := by
  cases a <;> cases b <;> simp_all [number?, before, toNumber, Number.lt, Number.same, bind, Except.bind]

private theorem compare_le {α : Type} [LinearOrder α] (a b : α) :
    (compare a b == .lt || compare a b == .eq) = decide (a ≤ b) := by
  rcases lt_trichotomy a b with h | h | h
  · simp [compare_lt_iff_lt.2 h, h.le]
  · simp [h]
  · simp [compare_gt_iff_gt.2 h, h]

theorem compare_lt {α : Type} [LinearOrder α] (a b : α) : (compare a b == .lt) = decide (a < b) := by
  rcases lt_trichotomy a b with h | h | h
  · simp [compare_lt_iff_lt.2 h, h]
  · simp [h]
  · simp [compare_gt_iff_gt.2 h, h.le]

section integers

variable {a b : Value} {m n : ℤ}

theorem le_of_number? (ha : a.number? = some (.int m)) (hb : b.number? = some (.int n)) :
    a.le b = .ok (decide (m ≤ n)) := by
  rw [le, before_of_compare? ha hb rfl, Bool.true_and, compare_le]

theorem lt_of_number? (ha : a.number? = some (.int m)) (hb : b.number? = some (.int n)) :
    a.lt b = .ok (decide (m < n)) := by
  rw [lt, before_of_compare? ha hb rfl, Bool.false_and, Bool.or_false, compare_lt]

theorem max_int (m n : ℤ) : (Value.int m).max (.int n) = .ok (.int (m ⊔ n)) := by
  rw [Value.max, lt_of_number? rfl rfl, Outcome.ok_bind]
  rcases lt_or_ge m n with h | h
  · simp [h, h.le]
  · simp [h, h.not_gt]

theorem number?_of_int? (h : a.int? = some n) : a.number? = some (.int n) := by
  cases a <;> simp_all [int?, number?]

theorem div_of_int? (h : a.int? = some n) (b : Value) : a.div b = (Value.int n).div b := by
  rw [div, toNumber, number?_of_int? h]
  rfl

end integers

theorem float_le_int (h : x.value? = some q) (n : ℤ) : (Value.float x).le (.int n) = .ok (decide (q ≤ n)) := by
  have hcompare : (Number.float x).compare? (.int n) = some (compare q n) := compareInt?_eq h n
  rw [le, before_of_compare? rfl rfl hcompare, Bool.true_and, compare_le]

theorem int_le_float (h : x.value? = some q) (n : ℤ) : (Value.int n).le (.float x) = .ok (decide (n ≤ q)) := by
  have hcompare : (Number.int n).compare? (.float x) = some (compare (n : ℚ) q) := by
    rw [Number.compare?, compareInt?_eq h, Option.map_some, ← Std.OrientedOrd.eq_swap]
  rw [le, before_of_compare? rfl rfl hcompare, Bool.true_and, compare_le]

theorem int_le_infinity (n : ℤ) : (Value.int n).le (.float (.infinity false)) = .ok true := rfl

theorem floor_float (h : x.value? = some q) : (Value.float x).floor = .ok ⌊q⌋ := by
  have hfloor : (Number.float x).floor = .ok ⌊q⌋ := by
    obtain ⟨s, m, e, rfl, -⟩ := exists_finite_of_value? h
    simp only [Number.floor, floor?_eq h]
  exact hfloor

theorem ceil_float (h : x.value? = some q) : (Value.float x).ceil = .ok ⌈q⌉ := by
  have hceil : (Number.float x).ceil = .ok ⌈q⌉ := by
    obtain ⟨s, m, e, rfl, -⟩ := exists_finite_of_value? h
    simp only [Number.ceil, ceil?_eq h]
  exact hceil

end order

section rounding

variable {c : Binary64} {q : ℚ}

@[simp] theorem Number.toBinary64_float (x : Binary64) : (Number.float x).toBinary64 = .ok x := rfl

theorem toBinary64_natCast (n : ℕ) :
    (rounded n < limit ∧ ∃ x, x.value? = some (rounded n) ∧ (Number.int n).toBinary64 = .ok x) ∨
      (limit ≤ rounded n ∧ (Number.int n).toBinary64 = .error .overflow) := by
  have hround := rounds_ofQuotient n one_pos
  rw [Nat.cast_one, div_one] at hround
  have hsign : decide ((n : ℤ) < 0) = false := by simp
  rcases hround.cases with ⟨hlt, hvalue⟩ | ⟨hle, hinfinity⟩
  · refine .inl ⟨hlt, _, hvalue, ?_⟩
    obtain ⟨s, m, e, hx, -⟩ := exists_finite_of_value? hvalue
    simp [Number.toBinary64, ofInt?, hsign, hx]
  · exact .inr ⟨hle, by simp [Number.toBinary64, ofInt?, hsign, hinfinity]⟩

/-- The quotient of two natural numbers is rounded once. -/
theorem int_div_int (m : ℕ) {n : ℕ} (hn : 0 < n) :
    (rounded (m / n) < limit ∧
      ∃ x, x.value? = some (rounded (m / n)) ∧ (Value.int m).div (.int n) = .ok (.float x)) ∨
      (limit ≤ rounded (m / n) ∧ (Value.int m).div (.int n) = .error .overflow) := by
  have hsign : (decide ((m : ℤ) < 0) != decide ((n : ℤ) < 0)) = false := by
    rw [decide_eq_false (show ¬(m : ℤ) < 0 by omega), decide_eq_false (show ¬(n : ℤ) < 0 by omega)]
    rfl
  have hne : (n : ℤ) ≠ 0 := by exact_mod_cast hn.ne'
  rcases (rounds_ofQuotient m hn).cases with ⟨hlt, hvalue⟩ | ⟨hle, hinfinity⟩
  · refine .inl ⟨hlt, _, hvalue, ?_⟩
    obtain ⟨s, k, e, hx, -⟩ := exists_finite_of_value? hvalue
    have hquotient : Number.divInt m n = .ok (ofQuotient false m n) := by
      simp only [Number.divInt, hne, if_false, hsign, Int.natAbs_natCast, hx]
    simp [div, toNumber, number?, Number.div, hquotient, bind, Except.bind, Except.map, ofNumber]
  · refine .inr ⟨hle, ?_⟩
    have hquotient : Number.divInt m n = .error .overflow := by
      simp only [Number.divInt, hne, if_false, hsign, Int.natAbs_natCast, hinfinity]
    simp [div, toNumber, number?, Number.div, hquotient, bind, Except.bind, Except.map]

/-- A quotient of natural numbers below `2 ^ 53`, rounded down, is the whole quotient. -/
theorem floor_int_div_int {m n : ℕ} (hm : m < 2 ^ 53) (hn : 0 < n) (hle : n ≤ 2 ^ 53) :
    ∃ v, (Value.int m).div (.int n) = .ok v ∧ v.floor = .ok ((m / n : ℕ) : ℤ) := by
  have hquotient : (m / n : ℚ) ≤ 2 ^ 53 :=
    (div_le_self (Nat.cast_nonneg m) (by exact_mod_cast hn)).trans (by exact_mod_cast hm.le)
  have hlimit := (rounded_le_two_pow (by positivity) hquotient).trans_lt (two_pow_lt_limit (by norm_num))
  rcases int_div_int m hn with ⟨-, x, hx, hdiv⟩ | ⟨hlarge, -⟩
  · exact ⟨.float x, hdiv, by rw [floor_float hx, floor_rounded_natCast_div hm hn hle]⟩
  · exact absurd hlimit (not_lt.2 hlarge)

/-- The product of a natural number, which is rounded first, and a binary64 number. -/
theorem int_mul_float {n : ℕ} (hn : 0 < rounded n) (hc : c.value? = some q) (hq : 0 < q) :
    (rounded n < limit ∧ ∃ x, Rounds (rounded n * q) x ∧ (Value.int n).mul (.float c) = .ok (.float x)) ∨
      (limit ≤ rounded n ∧ (Value.int n).mul (.float c) = .error .overflow) := by
  rcases toBinary64_natCast n with ⟨hlt, x, hx, hsome⟩ | ⟨hle, hfails⟩
  · refine .inl ⟨hlt, x.mul c, rounds_mul hx hc hn hq, ?_⟩
    simp [mul, toNumber, number?, Number.mul, Number.combine, hsome, bind, Except.bind, Except.map, ofNumber]
  · refine .inr ⟨hle, ?_⟩
    simp [mul, toNumber, number?, Number.mul, Number.combine, hfails, bind, Except.bind, Except.map]

/-- The quotient of a binary64 number and a natural number, which is rounded first. -/
theorem float_div_int {n : ℕ} (hc : c.value? = some q) (hq : 0 < q) (hn : 0 < rounded n) (hlt : rounded n < limit) :
    ∃ x, Rounds (q / rounded n) x ∧ (Value.float c).div (.int n) = .ok (.float x) := by
  rcases toBinary64_natCast n with ⟨-, y, hy, hsome⟩ | ⟨hle, -⟩
  · obtain ⟨x, hquotient, hx⟩ := rounds_div hc hy hq hn
    refine ⟨x, hx, ?_⟩
    simp [div, toNumber, number?, Number.div, hsome, hquotient, bind, Except.bind, Except.map, ofNumber]
  · exact absurd hlt (not_lt.2 hle)

end rounding

end Docsmith.Value
