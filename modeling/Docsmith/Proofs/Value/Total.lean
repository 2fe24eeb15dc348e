import Docsmith.Proofs.Value.Error

/-!
# Totals

Numbers that are added up one by one, starting from a binary64 number.  This never fails (`exists_total`).  Each
addition is rounded once (`exists_close_add`); as long as the total stays below `2 ^ j`, it differs from the exact one
by at most half a unit of that size for each number (`exists_close_total`).
-/

namespace Docsmith.Value

open Binary64

/-- The rational number that a value stands for, and 0 if it stands for none. -/
def amount (v : Value) : ℚ := v.amount?.getD 0

variable {vs : List Value} {x y : Binary64} {p q s : ℚ} {v w : Value} {j k : ℕ}

theorem amount_of_amount? (h : v.amount? = some p) : v.amount = p := by rw [amount, h, Option.getD_some]

theorem Within.amount?_eq (h : v.Within k) : v.amount? = some v.amount := by
  obtain ⟨q, hq, -⟩ := h
  rw [amount, hq, Option.getD_some]

theorem Within.amount_nonneg (h : v.Within k) : 0 ≤ v.amount := by
  obtain ⟨q, hq, hnonneg, -⟩ := h
  rwa [amount, hq, Option.getD_some]

theorem Within.amount_le (h : v.Within k) : v.amount ≤ 2 ^ k := by
  obtain ⟨q, hq, -, hle⟩ := h
  rwa [amount, hq, Option.getD_some]

private theorem Within.abs_amount_le (h : v.Within k) (hk : k ≤ 53) : |v.amount| ≤ 2 ^ 53 := by
  rw [abs_of_nonneg h.amount_nonneg]
  exact h.amount_le.trans (pow_le_pow_right₀ (by norm_num) hk)

theorem exists_total (hvs : ∀ v ∈ vs, v.Within k) (hk : k ≤ 53) (x : Binary64) :
    ∃ z, vs.foldlM Value.add (.float x) = .ok (.float z) := by
  induction vs generalizing x with
  | nil => exact ⟨x, rfl⟩
  | cons v vs ih =>
    obtain ⟨hv, hvs⟩ := List.forall_mem_cons.1 hvs
    obtain ⟨y, hadd, -⟩ := exists_float_add x hv.amount?_eq (hv.abs_amount_le hk)
    obtain ⟨z, hz⟩ := ih hvs (x.add y)
    exact ⟨z, by rw [List.foldlM_cons, hadd, Outcome.ok_bind, hz]⟩

/-- One addition of binary64 numbers: the sum is not negative and rounded once. -/
private theorem close_add_nonneg (hx : x.value? = some p) (hy : y.value? = some q) (hp : 0 ≤ p) (hq : 0 ≤ q)
    (hlt : p + q < 2 ^ j) (hj : j < 1024) :
    ∃ t, (x.add y).value? = some t ∧ 0 ≤ t ∧ |t - (p + q)| ≤ 2 ^ j / 2 ^ 54 := by
  have hsum : 0 ≤ p + q := add_nonneg hp hq
  have hlimit := (rounded_le_two_pow hsum hlt.le).trans_lt (two_pow_lt_limit hj)
  have hvalue := value?_add hx hy hp hq hlimit
  obtain ⟨t, ht, hclose⟩ := close_add hx hy (by rwa [abs_of_nonneg hsum]) hj
  refine ⟨t, ht, ?_, hclose⟩
  rw [hvalue, Option.some.injEq] at ht
  exact ht ▸ rounded_nonneg _

/-- One addition of numbers of any kind: integers are added exactly. -/
theorem exists_close_add (hv : v.amount? = some p) (hw : w.amount? = some q) (hp : 0 ≤ p) (hq : 0 ≤ q)
    (hlt : p + q < 2 ^ j) (hj : j ≤ 53) :
    ∃ u t, v.add w = .ok u ∧ u.amount? = some t ∧ 0 ≤ t ∧ |t - (p + q)| ≤ 2 ^ j / 2 ^ 54 := by
  obtain ⟨m, hm, hmp⟩ := Option.bind_eq_some_iff.1 hv
  obtain ⟨n, hn, hnq⟩ := Option.bind_eq_some_iff.1 hw
  have hexact : (2 : ℚ) ^ j ≤ 2 ^ 53 := pow_le_pow_right₀ (by norm_num) hj
  obtain ⟨x, hx, hxp⟩ := toBinary64_exact hmp (by rw [abs_of_nonneg hp]; linarith)
  obtain ⟨y, hy, hyq⟩ := toBinary64_exact hnq (by rw [abs_of_nonneg hq]; linarith)
  rw [add_of_number? hm hn, Number.add]
  by_cases hints : ∃ c d, m = .int c ∧ n = .int d
  · obtain ⟨c, d, rfl, rfl⟩ := hints
    cases hmp
    cases hnq
    refine ⟨.int (c + d), c + d, rfl, ?_, add_nonneg hp hq, ?_⟩
    · simp [amount?, number?, Number.amount?]
    · rw [sub_self, abs_zero]
      positivity
  · obtain ⟨t, ht, hnonneg, hclose⟩ := close_add_nonneg hxp hyq hp hq hlt (by omega)
    refine ⟨.float (x.add y), t, ?_, ht, hnonneg, hclose⟩
    rw [Number.combine, hx, hy]
    · rfl
    · exact fun c d hc hd => hints ⟨c, d, hc, hd⟩

private theorem sum_amount_nonneg (hvs : ∀ v ∈ vs, v.Within k) : 0 ≤ (vs.map amount).sum :=
  List.sum_nonneg fun _ ha => by
    obtain ⟨v, hv, rfl⟩ := List.mem_map.1 ha
    exact (hvs v hv).amount_nonneg

/-- The total and its error, if there is room for the exact total and the largest errors. -/
private theorem exists_close_total (hvs : ∀ v ∈ vs, v.Within k) (hk : k ≤ 53) (hj : j < 1024) (hx : x.value? = some s)
    (hs : 0 ≤ s) (hroom : s + (vs.map amount).sum + vs.length * (2 ^ j / 2 ^ 54) < 2 ^ j) :
    ∃ z t, vs.foldlM Value.add (.float x) = .ok (.float z) ∧ z.value? = some t ∧
      |t - (s + (vs.map amount).sum)| ≤ vs.length * (2 ^ j / 2 ^ 54) := by
  have herror : (0 : ℚ) ≤ 2 ^ j / 2 ^ 54 := by positivity
  induction vs generalizing x s with
  | nil => exact ⟨x, s, rfl, hx, by simp⟩
  | cons v vs ih =>
    obtain ⟨hv, hvs⟩ := List.forall_mem_cons.1 hvs
    have hrest := sum_amount_nonneg hvs
    have herrors : (0 : ℚ) ≤ vs.length * (2 ^ j / 2 ^ 54) := by positivity
    rw [List.map_cons, List.sum_cons, List.length_cons, Nat.cast_add_one, add_one_mul] at hroom
    obtain ⟨y, hadd, hy⟩ := exists_float_add x hv.amount?_eq (hv.abs_amount_le hk)
    obtain ⟨u, hu, hnonneg, hnear⟩ := close_add_nonneg (j := j) hx hy hs hv.amount_nonneg (by linarith) hj
    obtain ⟨hlow, hhigh⟩ := abs_le.1 hnear
    obtain ⟨z, t, hz, ht, hclose⟩ := ih hvs hu hnonneg (by linarith)
    refine ⟨z, t, by rw [List.foldlM_cons, hadd, Outcome.ok_bind, hz], ht, ?_⟩
    rw [List.map_cons, List.sum_cons, List.length_cons, Nat.cast_add_one, add_one_mul]
    calc |t - (s + (v.amount + (vs.map amount).sum))|
        = |(t - (u + (vs.map amount).sum)) + (u - (s + v.amount))| := by ring_nf
      _ ≤ |t - (u + (vs.map amount).sum)| + |u - (s + v.amount)| := abs_add_le _ _
      _ ≤ vs.length * (2 ^ j / 2 ^ 54) + 2 ^ j / 2 ^ 54 := add_le_add hclose hnear

theorem sum_amount_le (hvs : ∀ v ∈ vs, v.Within k) : (vs.map amount).sum ≤ vs.length * 2 ^ k := by
  refine (List.sum_le_card_nsmul _ (2 ^ k) fun a ha => ?_).trans_eq ?_
  · obtain ⟨v, hv, rfl⟩ := List.mem_map.1 ha
    exact (hvs v hv).amount_le
  · rw [List.length_map, nsmul_eq_mul]

/-- The total of no more than `2 ^ 24` numbers that amount to no more than `2 ^ 33`, rounded to decimal places, is known
up to 17. -/
theorem exists_rounded_total (hvs : ∀ v ∈ vs, v.Within k) (hk : k ≤ 53) (hlength : vs.length ≤ 2 ^ 24)
    (hle : (vs.map amount).sum ≤ 2 ^ 33) (hx : x.value? = some 0) (places : ℕ) :
    ∃ z t, vs.foldlM Value.add (.float x) = .ok (.float z) ∧ (z.roundPlaces places).value? = some t ∧
      |t - (vs.map amount).sum| ≤ 17 := by
  have hlength' : (vs.length : ℚ) ≤ 2 ^ 24 := by exact_mod_cast hlength
  obtain ⟨z, s, hz, hs, hnear⟩ := exists_close_total (j := 34) hvs hk (by norm_num) hx le_rfl (by linarith)
  have hsum := sum_amount_nonneg hvs
  rw [zero_add, abs_le] at hnear
  obtain ⟨g, hplace, t, ht, hround⟩ := exists_close_roundPlaces places (j := 35) hs
    (by rw [← le_sub_iff_add_le, abs_le]; constructor <;> linarith) (by norm_num)
  have hhalf : (1 / (2 * 10 ^ places) : ℚ) ≤ 1 / 2 :=
    one_div_le_one_div_of_le (by norm_num) (by linarith [one_le_pow₀ (n := places) (show (1 : ℚ) ≤ 10 by norm_num)])
  rw [abs_le] at hplace hround
  norm_num at hround
  refine ⟨z, t, hz, ht, abs_le.2 ⟨by linarith, by linarith⟩⟩

end Docsmith.Value
