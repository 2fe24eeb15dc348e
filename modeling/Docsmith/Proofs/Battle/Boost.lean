import Docsmith.Battle.Damage
import Docsmith.Proofs.Battle.Training
import Docsmith.Proofs.Value.Amount

/-!
# Boosts

A boost of `b` multiplies a stat by `max 2 (2 + b) / max 2 (2 - b)`, and the state of a creature may halve it.  The
factors of most negative boosts are no binary64 numbers, and the product is rounded once more before it is rounded
down.  For boosts from -6 to 6 this makes no difference (`effectiveStat_exact`).  A product that should be a whole
number and falls short of it is rounded up to it (`le_rounded_of_sub_le`); any other one stays away from the next whole
number by an eighth, and no rounding bridges that (`floor_rounded_div`).

The other way to compute a boost, with one factor for both signs, gives the same (`effectiveStat_eq_boostFactor`):
without rounding if the boost is not negative, and with the same operations if it is.
-/

namespace Docsmith.Battle

open Binary64

/-! ### Lowered stats -/

section lowered

variable {v c : ℕ}

private theorem rounded_two_div_le (hc : 0 < c) : rounded (2 / c) ≤ 2 ^ 1 := by
  have hc' : (1 : ℚ) ≤ c := by exact_mod_cast hc
  exact rounded_le_two_pow (by positivity) (by rw [pow_one]; exact div_le_self (by norm_num) hc')

/-- The factors of the boosts from -1 to -6 are wrong by at most their `2 ^ 54`th part. -/
private theorem abs_rounded_two_div_le (hc : 3 ≤ c) (hc' : c ≤ 8) : |rounded (2 / c) * c - 2| ≤ 2 / 2 ^ 54 := by
  have hclose : ∀ c ∈ List.range' 3 6, (ofQuotient false 2 c).fraction?.map
      (fun r => decide (Nat.pow 2 54 * (r.1 * (c : ℤ) - 2 * (r.2 : ℤ)).natAbs ≤ 2 * r.2)) = some true := by
    decide +kernel
  have hvalue := rounds_ofQuotient 2 (show 0 < c by omega)
  rw [Nat.cast_ofNat] at hvalue
  obtain ⟨n, d, hfraction, hd, heq⟩ := fraction?_eq_some
    (hvalue.value? ((rounded_two_div_le (by omega)).trans_lt (two_pow_lt_limit (by norm_num))))
  have hbound := hclose c (List.mem_range'_1.2 ⟨hc, by omega⟩)
  rw [hfraction, Option.map_some, Option.some.injEq, decide_eq_true_iff] at hbound
  have hbound' : (2 ^ 54 : ℚ) * |(n * c - 2 * d : ℚ)| ≤ 2 * d := by
    have hcast : ((2 ^ 54 * (n * (c : ℤ) - 2 * (d : ℤ)).natAbs : ℕ) : ℚ) ≤ ((2 * d : ℕ) : ℚ) := by exact_mod_cast hbound
    rw [Nat.cast_mul, Nat.cast_natAbs] at hcast
    exact_mod_cast hcast
  have hd' : (0 : ℚ) < d := by exact_mod_cast hd
  have hsplit : rounded (2 / c) * c - 2 = (n * c - 2 * d) / d := by
    rw [heq]
    field_simp
  rw [hsplit, abs_div, abs_of_pos hd', div_le_div_iff₀ hd' (by positivity)]
  linarith

/-- A number that is so close to a fraction with a denominator up to 8 is rounded, divided and rounded down like the
fraction: just short of a whole number it is rounded up to it, and otherwise it stays away from the next one. -/
private theorem floor_rounded_div {x y : ℚ} {n d : ℕ} (hy : |y - x| ≤ x / 2 ^ 54) (hx0 : 0 < x)
    (hx : x < 2 ^ 49 + 2 ^ 48)
    (hc : 0 < c) (hc' : c ≤ 8) (hn : x * c = n) (hd : 0 < d) : ⌊rounded y / d⌋ = ⌊x / d⌋ := by
  obtain ⟨hlow, hhigh⟩ := abs_le.1 hy
  have hy0 : 0 < y := by linarith
  have herror := abs_le.1 (abs_rounded_sub_le_of_lt (j := 50) hy0 (by norm_num; linarith) (by decide))
  have hd0 : (0 : ℚ) < d := by exact_mod_cast hd
  obtain ⟨k, hk⟩ := Int.eq_ofNat_of_zero_le (Int.floor_nonneg.2 (div_pos hx0 hd0).le)
  obtain ⟨hkle, hklt⟩ := Int.floor_eq_iff.1 hk
  rw [hk, Int.floor_eq_iff]
  rw [Int.cast_natCast, le_div_iff₀ hd0] at hkle ⊢
  rw [Int.cast_natCast, div_lt_iff₀ hd0] at hklt
  rw [div_lt_iff₀ hd0]
  constructor
  · have hsmall : (k * d : ℕ) ≤ 2 ^ 53 := by
      have hlt : ((k * d : ℕ) : ℚ) < 2 ^ 50 := by push_cast; linarith
      have hlt' : k * d < 2 ^ 50 := by exact_mod_cast hlt
      omega
    have hshort : ((k * d : ℕ) : ℚ) - (k * d : ℕ) / 2 ^ 54 ≤ y := by push_cast; linarith
    exact_mod_cast le_rounded_of_sub_le hsmall hy0 hshort
  · have hgap : n + 1 ≤ (k + 1) * d * c := by
      have hlt : (n : ℚ) < ((k + 1) * d * c : ℕ) := by
        rw [← hn]
        push_cast
        exact mul_lt_mul_of_pos_right hklt (by exact_mod_cast hc)
      exact_mod_cast hlt
    have hgap' : x * c + 1 ≤ (k + 1) * d * c := by
      rw [hn]
      exact_mod_cast hgap
    have hc0 : (0 : ℚ) < c := by exact_mod_cast hc
    have hc8 : (c : ℚ) ≤ 8 := by exact_mod_cast hc'
    have hnext : x + 1 / 8 ≤ (k + 1) * d := by
      have hscaled : (x + 1 / 8) * c ≤ (k + 1) * d * c := by linarith
      exact le_of_mul_le_mul_right hscaled hc0
    norm_num at herror
    linarith

/-- A lowered stat is rounded down to the exact one. -/
private theorem floor_lowered (hv : v < 2 ^ 50) (hc : 3 ≤ c) (hc' : c ≤ 8) {d : ℕ} (hd : 0 < d) :
    ⌊rounded (v * rounded (2 / c)) / d⌋ = ⌊(v * 2 / c / d : ℚ)⌋ := by
  rcases Nat.eq_zero_or_pos v with rfl | hpos
  · simp [rounded_zero]
  have hv0 : (0 : ℚ) < v := by exact_mod_cast hpos
  have hv' : (v : ℚ) < 2 ^ 50 := by exact_mod_cast hv
  have hc0 : (3 : ℚ) ≤ c := by exact_mod_cast hc
  have hfactor := abs_rounded_two_div_le hc hc'
  have hclose : |v * rounded (2 / c) - v * 2 / c| ≤ v * 2 / c / 2 ^ 54 := by
    have hsplit : v * rounded (2 / c) - v * 2 / c = v / c * (rounded (2 / c) * c - 2) := by field_simp
    rw [hsplit, abs_mul, abs_of_pos (by positivity)]
    calc (v / c : ℚ) * |rounded (2 / c) * c - 2| ≤ v / c * (2 / 2 ^ 54) :=
          mul_le_mul_of_nonneg_left hfactor (by positivity)
      _ = v * 2 / c / 2 ^ 54 := by ring
  have hsmall : (v * 2 / c : ℚ) < 2 ^ 49 + 2 ^ 48 := by
    rw [div_lt_iff₀ (by linarith)]
    linarith
  refine floor_rounded_div (n := v * 2) hclose (by positivity) hsmall (by omega) hc' ?_ hd
  push_cast
  field_simp

private theorem rounded_lowered_le (hv : v ≤ 2 ^ 52) (hc : 0 < c) : rounded (v * rounded (2 / c)) ≤ 2 ^ 53 := by
  have hv' : (v : ℚ) ≤ 2 ^ 52 := by exact_mod_cast hv
  have hfactor := rounded_two_div_le hc
  have hnonneg := rounded_nonneg (2 / c)
  exact rounded_le_two_pow (by positivity) (by nlinarith)

end lowered

/-! ### Boosts of values -/

/-- Whether the state of a creature halves a stat: a burn halves the attack, and paralysis the speed. -/
def halves (code : String) (status : Value) : Bool :=
  code == "atk" && status.isText burn || code == "spe" && status.isText paralysis

/-- What a boosted stat is multiplied with in a state. -/
def statusFactor (code : String) (status : Value) : Value :=
  if halves code status then .decimal 5 1 else .int 1

/-- By how much the state of a creature divides a stat. -/
def statusShare (code : String) (status : Value) : ℕ := if halves code status then 2 else 1

section values

variable {v c : ℕ} {b : ℤ} {w : Value} {q : ℚ} {code : String} {status : Value}

private theorem representable_half (h : Representable q) (hlow : 1 / 4 ≤ q) : Representable (q / 2) := by
  obtain ⟨m, e, hm, he, rfl⟩ := h
  have hlarge : minExponent < e := by
    by_contra hle
    have hpow : (2 : ℚ) ^ e ≤ 2 ^ (-56 : ℤ) := two_zpow_mono ((not_lt.1 hle).trans (by decide))
    have hm' : (m : ℚ) ≤ 2 ^ 53 := by exact_mod_cast hm
    have hproduct : (m * 2 ^ e : ℚ) ≤ 2 ^ 53 * 2 ^ (-56 : ℤ) := mul_le_mul hm' hpow (two_zpow_pos e).le (by norm_num)
    norm_num at hproduct hlow
    linarith
  refine ⟨m, e - 1, hm, by omega, ?_⟩
  rw [zpow_sub_one₀ (by norm_num)]
  ring

private theorem value?_half : (ofDecimal false 5 (-((1 : ℕ) : ℤ))).value? = some (1 / 2) := by
  have hhalf : ofDecimal false 5 (-((1 : ℕ) : ℤ)) = .finite false 4503599627370496 (-53) := by decide +kernel
  rw [hhalf]
  norm_num [value?, signed]

private theorem amount?_statusFactor (code : String) (status : Value) :
    (statusFactor code status).amount? = some (1 / statusShare code status : ℚ) := by
  unfold statusFactor statusShare
  split
  · exact value?_half
  · simp [Value.amount?, Value.number?, Value.Number.amount?]

private theorem representable_statusShare (hq : Representable q) (hlow : q = 0 ∨ 1 / 4 ≤ q) :
    Representable (q / statusShare code status) := by
  unfold statusShare
  split
  · rcases hlow with rfl | hlow
    · simpa using hq
    · exact representable_half hq hlow
  · simpa using hq

theorem one_le_statusShare (code : String) (status : Value) : 1 ≤ statusShare code status := by
  unfold statusShare
  split <;> norm_num

/-- A number of the format in place of another, which is rounded down in the same way, and so are its parts. -/
structure StandsFor (q x : ℚ) : Prop where
  representable : Representable q
  zero_or_large : q = 0 ∨ 1 / 4 ≤ q
  le : q ≤ 2 ^ 53
  floor_div : ∀ d : ℕ, 0 < d → ⌊q / d⌋ = ⌊x / d⌋

private theorem StandsFor.nonneg {x : ℚ} (h : StandsFor q x) : 0 ≤ q :=
  h.zero_or_large.elim ge_of_eq fun h => le_trans (by norm_num) h

private theorem within_statusFactor (code : String) (status : Value) : (statusFactor code status).Within 0 := by
  refine ⟨_, amount?_statusFactor code status, by positivity, ?_⟩
  rw [pow_zero]
  exact div_le_one_of_le₀ (by exact_mod_cast one_le_statusShare code status) (by positivity)

/-- The state of a creature divides a number of the format exactly, and what remains is rounded down. -/
private theorem StandsFor.floor_mul_statusFactor {x : ℚ} (h : StandsFor q x) (hw : w.amount? = some q) (code : String)
    (status : Value) :
    (do (← w.mul (statusFactor code status)).floor : Outcome Int) = .ok ⌊x / statusShare code status⌋ := by
  have hone : Representable 1 := by exact_mod_cast representable_natCast (n := 1) (by norm_num)
  obtain ⟨_, hfactor, hnonneg, hunit⟩ := within_statusFactor code status
  cases (amount?_statusFactor code status).symm.trans hfactor
  obtain ⟨u, r, hmul, hr, -, -, heq⟩ := Value.mul_amount hw hfactor h.nonneg hnonneg h.le hunit (by norm_num)
  have hexact : r = q / statusShare code status := by
    have hr := heq (rounded_eq_self h.representable h.nonneg)
      (rounded_eq_self (representable_statusShare hone (.inr (by norm_num))) (by positivity))
    rwa [mul_one_div, rounded_eq_self (representable_statusShare h.representable h.zero_or_large)
      (div_nonneg h.nonneg (by positivity)), or_self] at hr
  rw [hmul, Outcome.ok_bind, Value.floor_amount hr, hexact, h.floor_div _ (one_le_statusShare code status)]

private theorem representable_natCast_div_two {n : ℕ} (hn : n ≤ 2 ^ 53) : Representable (n / 2) := by
  refine ⟨n, -1, hn, by decide, ?_⟩
  rw [zpow_neg_one]
  rfl

private theorem standsFor_natCast_div_two {n : ℕ} (hn : n ≤ 2 ^ 53) : StandsFor (n / 2) (n / 2) where
  representable := representable_natCast_div_two hn
  zero_or_large := by
    rcases Nat.eq_zero_or_pos n with rfl | hpos
    · simp
    · have hone : (1 : ℚ) ≤ n := by exact_mod_cast hpos
      exact .inr (by linarith)
  le := by
    have hcast : (n : ℚ) ≤ 2 ^ 53 := by exact_mod_cast hn
    linarith
  floor_div := fun _ _ => rfl

private theorem quarter_le_rounded (h : 1 / 4 ≤ q) : 1 / 4 ≤ rounded q := by
  have hquarter : rounded (1 / 4) = 1 / 4 := rounded_eq_self ⟨1, -2, by norm_num, by decide, by norm_num⟩ (by norm_num)
  rw [← hquarter]
  exact rounded_mono (by norm_num) h

private theorem standsFor_lowered (hv : v < 2 ^ 50) (hc : 3 ≤ c) (hc' : c ≤ 8) :
    StandsFor (rounded (v * rounded (2 / c))) (v * 2 / c) where
  representable := representable_rounded (mul_nonneg (Nat.cast_nonneg v) (rounded_nonneg _))
  zero_or_large := by
    rcases Nat.eq_zero_or_pos v with rfl | hpos
    · simp [rounded_zero]
    · have hone : (1 : ℚ) ≤ v := by exact_mod_cast hpos
      have hc8 : (c : ℚ) ≤ 8 := by exact_mod_cast hc'
      have hfactor : 1 / 4 ≤ rounded (2 / c) := by
        refine quarter_le_rounded ?_
        rw [div_le_div_iff₀ (by norm_num) (by exact_mod_cast (show 0 < c by omega))]
        linarith
      exact .inr (quarter_le_rounded (by nlinarith))
  le := rounded_lowered_le (by omega) (by omega)
  floor_div := fun _ hd => floor_lowered hv hc hc' hd

/-- Half of a natural number is exact. -/
private theorem natCast_div_two {n : ℕ} (hn : n ≤ 2 ^ 53) :
    ∃ x, (Value.int n).div (.int 2) = .ok (.float x) ∧ x.value? = some (n / 2 : ℚ) := by
  have hexact : rounded (n / (2 : ℕ)) = n / 2 := rounded_eq_self (representable_natCast_div_two hn) (by positivity)
  have hlt : rounded (n / (2 : ℕ)) < limit := by
    rw [hexact]
    exact (standsFor_natCast_div_two hn).le.trans_lt (two_pow_lt_limit (by norm_num))
  rcases Value.int_div_int n (n := 2) (by norm_num) with ⟨-, x, hx, hdiv⟩ | ⟨hle, -⟩
  · exact ⟨x, hdiv, by rw [hx, hexact]⟩
  · exact absurd hlt (not_lt.2 hle)

private theorem boosted_of_nonneg {n : ℕ} (hsmall : v * (2 + n) ≤ 2 ^ 53) :
    ∃ w, Creature.boosted (.int v) (.int n) = .ok w ∧ w.amount? = some ((v * (2 + n) : ℕ) / 2 : ℚ) := by
  have hlt : (Value.int 0).lt (.int n) = .ok (decide (0 < (n : ℤ))) := Value.lt_of_number? rfl rfl
  have hgt : (Value.int n).lt (.int 0) = .ok (decide ((n : ℤ) < 0)) := Value.lt_of_number? rfl rfl
  rw [Creature.boosted, hlt, Outcome.ok_bind]
  rcases Nat.eq_zero_or_pos n with rfl | hpos
  · refine ⟨.int v, by rw [hgt]; rfl, ?_⟩
    simp [Value.amount?, Value.number?, Value.Number.amount?]
  · obtain ⟨x, hdiv, hx⟩ := natCast_div_two hsmall
    refine ⟨.float x, ?_, hx⟩
    rw [decide_eq_true (by exact_mod_cast hpos)]
    exact_mod_cast hdiv

/-- The factor of a boost that is not negative is exact, and so is its product with a stat. -/
private theorem mul_raised {n : ℕ} (hsmall : v * (2 + n) ≤ 2 ^ 53) (hv : v ≤ 2 ^ 53) (hn : 2 + n ≤ 2 ^ 53) :
    ∃ f w, (Value.int (2 + n)).div (.int 2) = .ok f ∧ (Value.int v).mul f = .ok w ∧
      w.amount? = some ((v * (2 + n) : ℕ) / 2 : ℚ) := by
  obtain ⟨x, hdiv, hx⟩ := natCast_div_two hn
  obtain ⟨z, hmul, hz⟩ := Value.natCast_mul_float hv hx (by positivity) (standsFor_natCast_div_two hn).le (by norm_num)
  have hexact : rounded (v * ((2 + n : ℕ) / 2)) = (v * (2 + n) : ℕ) / 2 := by
    rw [mul_div_assoc', ← Nat.cast_mul]
    exact rounded_eq_self (representable_natCast_div_two hsmall) (by positivity)
  rw [hexact] at hz
  exact ⟨.float x, .float z, by exact_mod_cast hdiv, hmul, hz⟩

private theorem boosted_of_neg (hc : 2 < c) (hv : v ≤ 2 ^ 53) :
    ∃ f w, Value.div (.int 2) (.int c) = .ok f ∧ (Value.int v).mul f = .ok w ∧
      Creature.boosted (.int v) (.int (2 - c)) = .ok w ∧ w.amount? = some (rounded (v * rounded (2 / c))) := by
  have hlt : (Value.int 0).lt (.int (2 - c)) = .ok (decide (0 < (2 - c : ℤ))) := Value.lt_of_number? rfl rfl
  have hgt : (Value.int (2 - c)).lt (.int 0) = .ok (decide ((2 - c : ℤ) < 0)) := Value.lt_of_number? rfl rfl
  rw [decide_eq_false (by omega)] at hlt
  rw [decide_eq_true (by omega)] at hgt
  have hsub : Value.sub (.int 2) (.int (2 - c)) = .ok (.int (2 - (2 - c))) := rfl
  rw [sub_sub_cancel] at hsub
  have hround := rounded_two_div_le (show 0 < c by omega)
  rcases Value.int_div_int 2 (show 0 < c by omega) with ⟨-, f, hf, hdiv⟩ | ⟨hle, -⟩
  · obtain ⟨z, hmul, hz⟩ := Value.natCast_mul_float hv hf (rounded_nonneg _) hround (by norm_num)
    refine ⟨.float f, .float z, hdiv, hmul, ?_, hz⟩
    simp only [Creature.boosted, hlt, hgt, hsub, Outcome.ok_bind, Bool.false_eq_true, if_false, if_true]
    exact Outcome.bind_eq_ok.2 ⟨_, hdiv, hmul⟩
  · exact absurd (hround.trans_lt (two_pow_lt_limit (by norm_num))) (not_lt.2 hle)

/-- A boost is exact, although the factors of most negative boosts are not. -/
theorem floor_boosted (hv : v < 2 ^ 50) (hlow : -6 ≤ b) (hhigh : b ≤ 6) :
    (do (← (← Creature.boosted (.int v) (.int b)).mul (statusFactor code status)).floor : Outcome Int) =
      .ok ⌊(v * (max 2 (2 + b) : ℤ) / (max 2 (2 - b) : ℤ) : ℚ) / statusShare code status⌋ := by
  rcases le_or_gt 0 b with hb | hb
  · obtain ⟨n, rfl⟩ := Int.eq_ofNat_of_zero_le hb
    have hsmall : v * (2 + n) ≤ 2 ^ 53 := by nlinarith
    obtain ⟨w, hw, hamount⟩ := boosted_of_nonneg hsmall
    rw [hw, Outcome.ok_bind, (standsFor_natCast_div_two hsmall).floor_mul_statusFactor hamount code status,
      max_eq_right (by omega), max_eq_left (by omega)]
    push_cast
    rfl
  · obtain ⟨c, rfl⟩ : ∃ c : ℕ, b = 2 - c := ⟨(2 - b).toNat, by omega⟩
    obtain ⟨-, w, -, -, hw, hamount⟩ := boosted_of_neg (c := c) (by omega) (show v ≤ 2 ^ 53 by omega)
    rw [hw, Outcome.ok_bind, (standsFor_lowered hv (by omega) (by omega)).floor_mul_statusFactor hamount code status,
      max_eq_left (by omega), sub_sub_cancel, max_eq_right (by omega)]
    push_cast
    rfl

end values

/-! ### Boosts of creatures -/

/-- A creature whose stat `code` is `v`, before a boost of `b`, in the state `status`. -/
structure HasStat (a : Attributes) (code : String) (v : ℕ) (b : ℤ) (status : Value) : Prop where
  value : ∃ name, (code, name) ∈ statNames ∧ (Value.creature a).attr name = .ok (.int v)
  boost : ∃ boosts, (Value.creature a).attr "boosts" = .ok boosts ∧ boosts.item (.text code) = .ok (.int b)
  state : (Value.creature a).attr "status" = .ok status

section creatures

variable {a : Attributes} {code : String} {v : ℕ} {b : ℤ} {status : Value}

theorem HasStat.effectiveStat (h : HasStat a code v b status) :
    Creature.effectiveStat a (.text code) =
      (do (← (← Creature.boosted (.int v) (.int b)).mul (statusFactor code status)).floor) := by
  obtain ⟨⟨name, hname, hv⟩, ⟨boosts, hboosts, hb⟩, hstatus⟩ := h
  simp only [statNames, List.mem_cons, Prod.mk.injEq, List.not_mem_nil, or_false] at hname
  rcases hname with ⟨rfl, rfl⟩ | ⟨rfl, rfl⟩ | ⟨rfl, rfl⟩ | ⟨rfl, rfl⟩ | ⟨rfl, rfl⟩
  all_goals
    have hfield := (Value.field_creature a (by decide)).trans hv
    simp [Creature.effectiveStat, Creature.statAttribute, hstatus, hboosts, hfield, hb, Outcome.ok_bind, statusFactor,
      halves]

private theorem HasStat.boostFactor (h : HasStat a code v b status) :
    boostFactor (.creature a) (.text code) = (Value.int (max 2 (2 + b))).div (.int (max 2 (2 - b))) := by
  obtain ⟨-, ⟨boosts, hboosts, hb⟩, -⟩ := h
  have hfield := (Value.field_creature a (by decide)).trans hboosts
  have hadd : Value.add (.int 2) (.int b) = .ok (.int (2 + b)) := rfl
  have hsub : Value.sub (.int 2) (.int b) = .ok (.int (2 - b)) := rfl
  simp only [Battle.boostFactor, hfield, hb, hadd, hsub, Value.max_int, Outcome.ok_bind]

/-- The stat after boosts and the state is the exact one, rounded down. -/
theorem effectiveStat_exact (h : HasStat a code v b status) (hv : v < 2 ^ 50) (hlow : -6 ≤ b) (hhigh : b ≤ 6) :
    Creature.effectiveStat a (.text code) =
      .ok ⌊(v * (max 2 (2 + b) : ℤ) / (max 2 (2 - b) : ℤ) : ℚ) / statusShare code status⌋ := by
  rw [h.effectiveStat]
  exact floor_boosted hv hlow hhigh

/-- A creature with the given attack, which is lowered by one and by a burn. -/
def Sample.worn (attack : ℕ) : Attributes :=
  [("attack", .int attack), ("status", .text burn), ("boosts", .record [("atk", .int (-1))])]

private theorem Sample.hasStat_worn (attack : ℕ) : HasStat (worn attack) "atk" attack (-1) (.text burn) where
  value := ⟨"attack", by decide, rfl⟩
  boost := ⟨_, rfl, rfl⟩
  state := rfl

/-- Two thirds of the attack are a power of two, and the product with the factor, which is too small, is a tie. -/
theorem sample_effectiveStat_exact :
    HasStat (Sample.worn (3 * 2 ^ 48)) "atk" (3 * 2 ^ 48) (-1) (.text burn) ∧ 3 * 2 ^ 48 < 2 ^ 50 ∧
      Creature.effectiveStat (Sample.worn (3 * 2 ^ 48)) (.text "atk") = .ok (2 ^ 48) := by
  refine ⟨Sample.hasStat_worn _, by norm_num, ?_⟩
  rw [effectiveStat_exact (Sample.hasStat_worn _) (by norm_num) (by norm_num) (by norm_num)]
  norm_num [statusShare, halves, Value.isText]

/-- Rounding down after the state gives a natural number. -/
private theorem exists_floor_mul_statusFactor {w : Value} {k : ℕ} (hw : w.Within k) (hk : k < 1024) (code : String)
    (status : Value) : ∃ n : ℕ, (do (← w.mul (statusFactor code status)).floor : Outcome Int) = .ok (n : ℤ) := by
  obtain ⟨u, hmul, hu⟩ := hw.mul (within_statusFactor code status) hk
  obtain ⟨n, hfloor, -⟩ := hu.floor
  exact ⟨n, by rw [hmul, Outcome.ok_bind, hfloor]⟩

/-- The stat after boosts and the state is the stat times the factor of the boost and of the state, rounded down. -/
theorem effectiveStat_eq_boostFactor (h : HasStat a code v b status) (hv : v < 2 ^ 26) (hb : |b| < 2 ^ 20) :
    ∃ n : ℕ, Creature.effectiveStat a (.text code) = .ok (n : ℤ) ∧
      (do
        let factor ← boostFactor (.creature a) (.text code)
        (← (← (Value.int v).mul factor).mul (statusFactor code status)).floor : Outcome Int) = .ok (n : ℤ) := by
  rw [h.effectiveStat, h.boostFactor]
  rcases le_or_gt 0 b with hpos | hneg
  · -- all operations are exact
    obtain ⟨m, rfl⟩ := Int.eq_ofNat_of_zero_le hpos
    have hm : m < 2 ^ 20 := by
      rw [abs_of_nonneg hpos] at hb
      exact_mod_cast hb
    have hsmall : v * (2 + m) ≤ 2 ^ 53 := by nlinarith
    have hstands := standsFor_natCast_div_two hsmall
    obtain ⟨w, hw, hamount⟩ := boosted_of_nonneg hsmall
    obtain ⟨f, w', hdiv, hmul, hamount'⟩ := mul_raised hsmall (by omega) (by omega)
    obtain ⟨n, hn⟩ := exists_floor_mul_statusFactor ⟨_, hamount, hstands.nonneg, hstands.le⟩ (by norm_num) code status
    refine ⟨n, by rw [hw, Outcome.ok_bind, hn], ?_⟩
    rw [max_eq_right (by omega), max_eq_left (by omega), hdiv, Outcome.ok_bind, hmul, Outcome.ok_bind,
      hstands.floor_mul_statusFactor hamount', ← hstands.floor_mul_statusFactor hamount, hn]
  · -- both are the same operations
    obtain ⟨c, rfl⟩ : ∃ c : ℕ, b = 2 - c := ⟨(2 - b).toNat, by omega⟩
    obtain ⟨f, w, hdiv, hmul, hw, hamount⟩ := boosted_of_neg (c := c) (by omega) (show v ≤ 2 ^ 53 by omega)
    have hle := rounded_lowered_le (show v ≤ 2 ^ 52 by omega) (show 0 < c by omega)
    obtain ⟨n, hn⟩ := exists_floor_mul_statusFactor ⟨_, hamount, rounded_nonneg _, hle⟩ (by norm_num) code status
    refine ⟨n, by rw [hw, Outcome.ok_bind, hn], ?_⟩
    rw [max_eq_left (by omega), sub_sub_cancel, max_eq_right (by omega), hdiv, Outcome.ok_bind, hmul, Outcome.ok_bind,
      hn]

theorem sample_effectiveStat_eq_boostFactor :
    HasStat (Sample.worn 1000) "atk" 1000 (-1) (.text burn) ∧
    ∃ n : ℕ, Creature.effectiveStat (Sample.worn 1000) (.text "atk") = .ok (n : ℤ) ∧
      (do
        let factor ← boostFactor (.creature (Sample.worn 1000)) (.text "atk")
        (← (← (Value.int 1000).mul factor).mul (statusFactor "atk" (.text burn))).floor : Outcome Int) = .ok (n : ℤ) :=
  ⟨Sample.hasStat_worn 1000,
    effectiveStat_eq_boostFactor (Sample.hasStat_worn 1000) (by norm_num) (by norm_num)⟩

end creatures

end Docsmith.Battle
