import Docsmith.Proofs.Binary64.Nonnegative
import Docsmith.Proofs.Value.Arithmetic

/-!
# Amounts

The rational number that a value stands for.  `Within k v` says that it is from 0 to `2 ^ k`.  Arithmetic on such values
never fails as long as the bounds stay below `2 ^ 1024`, and gives such values again: `Within.mul`, `Within.add`,
`Within.div` and `Within.floor`.  A product is the exact one or the exact one rounded once, if both factors are numbers
of the format (`mul_amount`).
-/

namespace Docsmith.Value

open Binary64

/-- The rational number that a number stands for, if it is finite. -/
def Number.amount? : Number → Option ℚ
  | .int n => some n
  | .float x => x.value?

/-- The rational number that a value stands for, if it is a finite number. -/
def amount? (v : Value) : Option ℚ := v.number?.bind Number.amount?

/-- A number from 0 to `2 ^ k`. -/
def Within (k : ℕ) (v : Value) : Prop := ∃ q, v.amount? = some q ∧ 0 ≤ q ∧ q ≤ 2 ^ k

section numbers

variable {a b v : Value} {m n : Number}

/-- A number that equals an integer stands for it. -/
theorem Number.amount?_of_same {m : Number} {n : ℤ} (h : m.same (.int n) = true) : m.amount? = some (n : ℚ) := by
  have hcompare : m.compare? (.int n) = some .eq := by simpa [Number.same] using h
  cases m with
  | int k =>
    rw [Number.compare?, Option.some.injEq, compare_eq_iff_eq] at hcompare
    rw [hcompare]
    rfl
  | float x =>
    cases x with
    | finite s m e =>
      rw [Number.compare?, compareInt?_eq rfl, Option.some.injEq, compare_eq_iff_eq] at hcompare
      exact congrArg some hcompare
    | infinity s => cases s <;> simp [Number.compare?, compareInt?] at hcompare
    | nan => cases hcompare

theorem add_of_number? (ha : a.number? = some m) (hb : b.number? = some n) : a.add b = (m.add n).map ofNumber := by
  cases a <;> cases b <;> simp_all [number?, add, toNumber, bind, Except.bind]

theorem mul_of_number? (ha : a.number? = some m) (hb : b.number? = some n) : a.mul b = (m.mul n).map ofNumber := by
  cases a <;> cases b <;> simp_all [number?, mul, toNumber, bind, Except.bind]

theorem div_of_number? (ha : a.number? = some m) (hb : b.number? = some n) : a.div b = (m.div n).map ofNumber := by
  cases a <;> cases b <;> simp_all [number?, div, toNumber, bind, Except.bind]

private theorem floor_of_number? (h : v.number? = some n) : v.floor = n.floor := by
  simp [floor, toNumber, h, bind, Except.bind]

private theorem lt_ok_of_number? (ha : a.number? = some m) (hb : b.number? = some n) : ∃ c, a.lt b = .ok c := by
  cases a <;> cases b <;> simp_all [number?, lt, before, toNumber, bind, Except.bind]

theorem within_int {k n : ℕ} (h : n ≤ 2 ^ k) : Within k (.int n) :=
  ⟨n, by simp [amount?, number?, Number.amount?], Nat.cast_nonneg n, by exact_mod_cast h⟩

theorem within_float {x : Binary64} {q : ℚ} {k : ℕ} (h : x.value? = some q) (hq : 0 ≤ q) (hle : q ≤ 2 ^ k) :
    Within k (.float x) :=
  ⟨q, h, hq, hle⟩

/-- The bounds of a number, from a test that can be evaluated. -/
theorem within_of_fraction? {x : Binary64} {k : ℕ}
    (h : (x.fraction?.any fun p => decide (0 ≤ p.1 ∧ p.1 ≤ (Nat.pow 2 k : ℕ) * (p.2 : ℤ))) = true) :
    Within k (.float x) := by
  cases x with
  | finite s m e =>
    obtain ⟨n, d, hfraction, hd, hvalue⟩ := fraction?_eq_some (x := .finite s m e) rfl
    rw [hfraction, Option.any_some, decide_eq_true_iff] at h
    have hd' : (0 : ℚ) < d := by exact_mod_cast hd
    refine within_float rfl ?_ ?_
    · rw [hvalue]
      have hn : (0 : ℚ) ≤ n := by exact_mod_cast h.1
      positivity
    · rw [hvalue, div_le_iff₀ hd']
      exact_mod_cast h.2
  | infinity s => cases h
  | nan => cases h

theorem within_of_number? {m : Number} {k : ℕ} (hv : v.number? = some m) (hm : (ofNumber m).Within k) : v.Within k := by
  obtain ⟨q, hq, hbounds⟩ := hm
  refine ⟨q, ?_, hbounds⟩
  rw [amount?, hv]
  cases m <;> exact hq

theorem Within.mono {j k : ℕ} (h : Within j v) (hjk : j ≤ k) : Within k v := by
  obtain ⟨q, hv, hq, hle⟩ := h
  exact ⟨q, hv, hq, hle.trans (pow_le_pow_right₀ (by norm_num) hjk)⟩

theorem floor_amount {q : ℚ} (h : v.amount? = some q) : v.floor = .ok ⌊q⌋ := by
  obtain ⟨n, hn, hnq⟩ := Option.bind_eq_some_iff.1 h
  rw [floor_of_number? hn]
  cases n with
  | int n =>
    cases hnq
    rw [Int.floor_intCast]
    rfl
  | float x => exact floor_float hnq

/-- Rounding down gives a natural number. -/
theorem Within.floor {k : ℕ} (h : Within k v) : ∃ n : ℕ, v.floor = .ok (n : ℤ) ∧ n ≤ 2 ^ k := by
  obtain ⟨q, hv, hq, hle⟩ := h
  exact ⟨⌊q⌋₊, by rw [floor_amount hv, Int.natCast_floor_eq_floor hq], Nat.floor_le_of_le (by exact_mod_cast hle)⟩

/-- Numbers can be compared. -/
theorem Within.lt_ok {j k : ℕ} (ha : a.Within j) (hb : b.Within k) : ∃ c, a.lt b = .ok c := by
  obtain ⟨p, hp, -, -⟩ := ha
  obtain ⟨q, hq, -, -⟩ := hb
  obtain ⟨m, hm, -⟩ := Option.bind_eq_some_iff.1 hp
  obtain ⟨n, hn, -⟩ := Option.bind_eq_some_iff.1 hq
  exact lt_ok_of_number? hm hn

end numbers

/-! ### Products, sums and quotients -/

/-- A binary64 number from 0 to `2 ^ k`, which is `p` if the format has it. -/
def Near (p : ℚ) (k : ℕ) (x : Binary64) : Prop :=
  ∃ q, x.value? = some q ∧ 0 ≤ q ∧ q ≤ 2 ^ k ∧ (rounded p = p → q = p)

section arithmetic

variable {a b : Value} {m n : Number} {p q : ℚ} {j k : ℕ}

private theorem toBinary64_near (hm : m.amount? = some p) (hp : 0 ≤ p) (hle : p ≤ 2 ^ k) (hk : k < 1024) :
    ∃ x, m.toBinary64 = .ok x ∧ Near p k x := by
  cases m with
  | float x => exact ⟨x, rfl, p, hm, hp, hle, fun _ => rfl⟩
  | int n =>
    cases hm
    obtain ⟨n, rfl⟩ := Int.eq_ofNat_of_zero_le (show 0 ≤ n by exact_mod_cast hp)
    rw [Int.cast_natCast] at hle ⊢
    have hround := rounded_le_two_pow (Nat.cast_nonneg n) hle
    rcases toBinary64_natCast n with ⟨-, x, hx, hsome⟩ | ⟨hlimit, -⟩
    · exact ⟨x, hsome, rounded n, hx, rounded_nonneg _, hround, id⟩
    · exact absurd (hround.trans_lt (two_pow_lt_limit hk)) (not_lt.2 hlimit)

/-- An operation on two numbers is the exact one on natural numbers, or the rounded one on what they are rounded to. -/
private theorem combine_cases (exact : ℤ → ℤ → ℤ) (rounded : Binary64 → Binary64 → Binary64) (hm : m.amount? = some p)
    (hn : n.amount? = some q) (hp : 0 ≤ p) (hq : 0 ≤ q) (hj : p ≤ 2 ^ j) (hk : q ≤ 2 ^ k) (hjl : j < 1024)
    (hkl : k < 1024) :
    (∃ c d : ℕ, p = c ∧ q = d ∧ Number.combine exact rounded m n = .ok (.int (exact c d))) ∨
      ∃ x y, Near p j x ∧ Near q k y ∧ Number.combine exact rounded m n = .ok (.float (rounded x y)) := by
  obtain ⟨x, hx, hnear⟩ := toBinary64_near hm hp hj hjl
  obtain ⟨y, hy, hnear'⟩ := toBinary64_near hn hq hk hkl
  by_cases hints : ∃ c d, m = .int c ∧ n = .int d
  · obtain ⟨c, d, rfl, rfl⟩ := hints
    cases hm
    cases hn
    obtain ⟨c, rfl⟩ := Int.eq_ofNat_of_zero_le (show 0 ≤ c by exact_mod_cast hp)
    obtain ⟨d, rfl⟩ := Int.eq_ofNat_of_zero_le (show 0 ≤ d by exact_mod_cast hq)
    exact .inl ⟨c, d, rfl, rfl, rfl⟩
  · refine .inr ⟨x, y, hnear, hnear', ?_⟩
    rw [Number.combine, hx, hy]
    · rfl
    · exact fun c d hc hd => hints ⟨c, d, hc, hd⟩

/-- A product of two numbers. -/
theorem mul_amount (ha : a.amount? = some p) (hb : b.amount? = some q) (hp : 0 ≤ p) (hq : 0 ≤ q) (hj : p ≤ 2 ^ j)
    (hk : q ≤ 2 ^ k) (hjk : j + k < 1024) :
    ∃ c r, a.mul b = .ok c ∧ c.amount? = some r ∧ 0 ≤ r ∧ r ≤ 2 ^ (j + k) ∧
      (rounded p = p → rounded q = q → r = p * q ∨ r = rounded (p * q)) := by
  obtain ⟨m, hm, hmp⟩ := Option.bind_eq_some_iff.1 ha
  obtain ⟨n, hn, hnq⟩ := Option.bind_eq_some_iff.1 hb
  rw [mul_of_number? hm hn, Number.mul]
  rcases combine_cases (· * ·) Binary64.mul hmp hnq hp hq hj hk (by omega) (by omega) with
    ⟨c, d, rfl, rfl, hmul⟩ | ⟨x, y, ⟨p', hx, hp', hj', hexact⟩, ⟨q', hy, hq', hk', hexact'⟩, hmul⟩
  · refine ⟨.int (c * d), c * d, by rw [hmul]; rfl, by simp [amount?, number?, Number.amount?], by positivity, ?_,
      fun _ _ => .inl rfl⟩
    rw [pow_add]
    exact mul_le_mul hj hk hq (by positivity)
  · have hle : p' * q' ≤ 2 ^ (j + k) := by
      rw [pow_add]
      exact mul_le_mul hj' hk' hq' (by positivity)
    have hround := rounded_le_two_pow (mul_nonneg hp' hq') hle
    refine ⟨.float (x.mul y), rounded (p' * q'), by rw [hmul]; rfl,
      value?_mul hx hy hp' hq' (hround.trans_lt (two_pow_lt_limit hjk)), rounded_nonneg _, hround, ?_⟩
    intro hpe hqe
    rw [hexact hpe, hexact' hqe]
    exact .inr rfl

/-- The product of a natural number that the format has and a binary64 number is always rounded. -/
theorem natCast_mul_float {c : ℕ} {x : Binary64} (hc : c ≤ 2 ^ 53) (hx : x.value? = some q) (hq : 0 ≤ q)
    (hk : q ≤ 2 ^ k) (hkl : 53 + k < 1024) :
    ∃ z, (Value.int c).mul (.float x) = .ok (.float z) ∧ z.value? = some (rounded (c * q)) := by
  have hc' : (c : ℚ) ≤ 2 ^ 53 := by exact_mod_cast hc
  have hle : (c * q : ℚ) ≤ 2 ^ (53 + k) := by
    rw [pow_add]
    exact mul_le_mul hc' hk hq (by positivity)
  have hlimit := (rounded_le_two_pow (mul_nonneg (Nat.cast_nonneg c) hq) hle).trans_lt (two_pow_lt_limit hkl)
  obtain ⟨y, hy, p, hyp, hp, -, hexact⟩ := toBinary64_near (m := .int c) (k := 53) rfl
    (by exact_mod_cast c.zero_le) (by exact_mod_cast hc) (by norm_num)
  obtain rfl : p = c := hexact (by exact_mod_cast rounded_eq_self (representable_natCast hc) (Nat.cast_nonneg c))
  refine ⟨y.mul x, ?_, value?_mul hyp hx hp hq hlimit⟩
  rw [mul_of_number? rfl rfl, Number.mul, Number.combine, hy]
  · rfl
  · rintro _ _ - ⟨⟩

theorem Within.mul (ha : Within j a) (hb : Within k b) (hjk : j + k < 1024) :
    ∃ c, a.mul b = .ok c ∧ Within (j + k) c := by
  obtain ⟨p, hp, hp0, hpj⟩ := ha
  obtain ⟨q, hq, hq0, hqk⟩ := hb
  obtain ⟨c, r, hmul, hr, hr0, hrle, -⟩ := mul_amount hp hq hp0 hq0 hpj hqk hjk
  exact ⟨c, hmul, r, hr, hr0, hrle⟩

theorem Within.add (ha : Within k a) (hb : Within k b) (hk : k + 1 < 1024) :
    ∃ c, a.add b = .ok c ∧ Within (k + 1) c := by
  obtain ⟨p, hp, hp0, hpk⟩ := ha
  obtain ⟨q, hq, hq0, hqk⟩ := hb
  obtain ⟨m, hm, hmp⟩ := Option.bind_eq_some_iff.1 hp
  obtain ⟨n, hn, hnq⟩ := Option.bind_eq_some_iff.1 hq
  rw [add_of_number? hm hn, Number.add]
  rcases combine_cases (· + ·) Binary64.add hmp hnq hp0 hq0 hpk hqk (by omega) (by omega) with
    ⟨c, d, rfl, rfl, hadd⟩ | ⟨x, y, ⟨p', hx, hp', hpk', -⟩, ⟨q', hy, hq', hqk', -⟩, hadd⟩
  · refine ⟨.int (c + d), by rw [hadd]; rfl, c + d, by simp [amount?, number?, Number.amount?], by positivity, ?_⟩
    rw [pow_succ]
    linarith
  · have hround := rounded_le_two_pow (j := k + 1) (add_nonneg hp' hq') (by rw [pow_succ]; linarith)
    exact ⟨.float (x.add y), by rw [hadd]; rfl, rounded (p' + q'),
      value?_add hx hy hp' hq' (hround.trans_lt (two_pow_lt_limit hk)), rounded_nonneg _, hround⟩

/-- A quotient by a positive natural number that the format has. -/
theorem Within.div {d : ℕ} (ha : Within k a) (hd : 0 < d) (hexact : d ≤ 2 ^ 53) (hk : k < 1024) :
    ∃ c, a.div (.int d) = .ok c ∧ Within k c := by
  have hd' : (1 : ℚ) ≤ d := by exact_mod_cast hd
  have hquotient : ∀ {p : ℚ}, 0 ≤ p → p ≤ 2 ^ k → rounded (p / d) ≤ 2 ^ k := fun hp hle =>
    rounded_le_two_pow (by positivity) ((div_le_self hp hd').trans hle)
  obtain ⟨p, hp, hp0, hpk⟩ := ha
  obtain ⟨m, hm, hmp⟩ := Option.bind_eq_some_iff.1 hp
  rw [div_of_number? hm rfl]
  cases m with
  | int n =>
    cases hmp
    obtain ⟨n, rfl⟩ := Int.eq_ofNat_of_zero_le (show 0 ≤ n by exact_mod_cast hp0)
    rw [Int.cast_natCast] at hpk hp0
    have hround := hquotient hp0 hpk
    rcases int_div_int n hd with ⟨-, x, hx, hdiv⟩ | ⟨hlimit, -⟩
    · rw [div_of_number? rfl rfl] at hdiv
      exact ⟨.float x, hdiv, within_float hx (rounded_nonneg _) hround⟩
    · exact absurd (hround.trans_lt (two_pow_lt_limit hk)) (not_lt.2 hlimit)
  | float x =>
    obtain ⟨y, hy, q, hyq, -, -, hq⟩ := toBinary64_near (m := .int d) (k := 53) rfl (by positivity)
      (by exact_mod_cast hexact) (by norm_num)
    obtain rfl : q = d := hq (by exact_mod_cast rounded_natCast hexact hd)
    have hround := hquotient hp0 hpk
    obtain ⟨z, hz, hvalue⟩ := value?_div hmp hyq hp0 (by linarith) (hround.trans_lt (two_pow_lt_limit hk))
    refine ⟨.float z, ?_, within_float hvalue (rounded_nonneg _) hround⟩
    simp [Number.div, hy, hz, bind, Except.bind, Except.map, ofNumber]

end arithmetic

end Docsmith.Value
