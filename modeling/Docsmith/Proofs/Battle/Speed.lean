import Docsmith.Proofs.Battle.Making

/-!
# Speeds at level 100

The speed of a creature at level 100, in numbers.  Without a nature it is `plainStat`, and a nature makes nine or eleven
tenths of it, rounded to binary64 and then down (`Pace.speed`).  All speeds of a species lie between those with the
least and the greatest effort and nature; only the slowest ones can be less than the product that the least speed is
rounded down from (`Pace.lowest_le_speed_iff`).
-/

namespace Docsmith.Battle

open Binary64

/-! ### The factors of natures -/

/-- The binary64 number nearest to 0.9. -/
def nineTenths : ℚ := 8106479329266893 / 2 ^ 53

/-- The binary64 number nearest to 1.1. -/
def elevenTenths : ℚ := 4953959590107546 / 2 ^ 52

theorem value?_nineTenths : (ofDecimal false 9 (-((1 : ℕ) : ℤ))).value? = some nineTenths := by
  have hfactor : ofDecimal false 9 (-((1 : ℕ) : ℤ)) = .finite false 8106479329266893 (-53) := by decide +kernel
  rw [hfactor]
  norm_num [value?, signed, nineTenths]

theorem value?_elevenTenths : (ofDecimal false 11 (-((1 : ℕ) : ℤ))).value? = some elevenTenths := by
  have hfactor : ofDecimal false 11 (-((1 : ℕ) : ℤ)) = .finite false 4953959590107546 (-52) := by decide +kernel
  rw [hfactor]
  norm_num [value?, signed, elevenTenths]

/-- A stat times a factor, both rounded. -/
def scaledBy (factor : ℚ) (n : ℕ) : ℚ := rounded (rounded n * factor)

section factors

variable {m n : ℕ} {factor : ℚ}

theorem nineTenths_pos : 0 < nineTenths := by norm_num [nineTenths]

theorem elevenTenths_pos : 0 < elevenTenths := by norm_num [elevenTenths]

theorem one_le_rounded (hn : 0 < n) : 1 ≤ rounded n := by
  have hone : rounded 1 = 1 := by exact_mod_cast rounded_natCast (n := 1) (by norm_num) one_pos
  rw [← hone]
  exact rounded_mono one_pos (by exact_mod_cast hn)

theorem scaledBy_mono (hfactor : 0 < factor) (hm : 0 < m) (h : m ≤ n) : scaledBy factor m ≤ scaledBy factor n := by
  have hrounded : rounded m ≤ rounded n := rounded_mono (by exact_mod_cast hm) (by exact_mod_cast h)
  have hpos : 0 < rounded m := one_pos.trans_le (one_le_rounded hm)
  exact rounded_mono (mul_pos hpos hfactor) (mul_le_mul_of_nonneg_right hrounded hfactor.le)

/-- Two roundings are far too small to make up for a tenth. -/
theorem scaledBy_nineTenths_le (hn : 2 ≤ n) : scaledBy nineTenths n ≤ n := by
  have hn' : (2 : ℚ) ≤ n := by exact_mod_cast hn
  have hfirst := abs_le.1 (abs_rounded_sub_le (x := n) (by linarith))
  have hproduct : 1 ≤ rounded n * nineTenths := by
    norm_num [nineTenths] at hfirst ⊢
    linarith
  have hsecond := abs_le.1 (abs_rounded_sub_le hproduct)
  unfold scaledBy
  norm_num [nineTenths] at hfirst hsecond ⊢
  linarith

theorem le_scaledBy_elevenTenths (hn : 1 ≤ n) : (n : ℚ) ≤ scaledBy elevenTenths n := by
  have hn' : (1 : ℚ) ≤ n := by exact_mod_cast hn
  have hfirst := abs_le.1 (abs_rounded_sub_le hn')
  have hproduct : 1 ≤ rounded n * elevenTenths := by
    norm_num [elevenTenths] at hfirst ⊢
    linarith
  have hsecond := abs_le.1 (abs_rounded_sub_le hproduct)
  unfold scaledBy
  norm_num [elevenTenths] at hfirst hsecond ⊢
  linarith

/-- From `2 ^ 53` on there are no places after the point. -/
private theorem floor_scaledBy_nineTenths (hn : 2 ^ 53 ≤ n) :
    (⌊scaledBy nineTenths n⌋ : ℚ) = scaledBy nineTenths n := by
  have hrounded : (2 ^ 53 : ℚ) ≤ rounded n := by
    have hexact : rounded ((2 ^ 53 : ℕ) : ℚ) = ((2 ^ 53 : ℕ) : ℚ) := rounded_natCast le_rfl (by norm_num)
    have hmono := rounded_mono (by norm_num) (show ((2 ^ 53 : ℕ) : ℚ) ≤ n by exact_mod_cast hn)
    rw [hexact] at hmono
    exact_mod_cast hmono
  obtain ⟨k, hk⟩ := exists_rounded_eq_natCast (x := rounded n * nineTenths) (by norm_num [nineTenths]; linarith)
  rw [scaledBy, hk, Int.floor_natCast, Int.cast_natCast]

/-- Where nine tenths of a stat are not whole, those of the next stat are at least the next whole number: otherwise
the exact product would be so close below a whole number that it would have been rounded to it. -/
private theorem floor_add_one_le (hn : 2 ≤ n) (h : (⌊scaledBy nineTenths n⌋ : ℚ) ≠ scaledBy nineTenths n) :
    (⌊scaledBy nineTenths n⌋ : ℚ) + 1 ≤ scaledBy nineTenths (n + 1) := by
  have hsmall : n < 2 ^ 53 := by
    by_contra hle
    exact h (floor_scaledBy_nineTenths (not_lt.1 hle))
  have hn' : (2 : ℚ) ≤ n := by exact_mod_cast hn
  have hexact : scaledBy nineTenths n = rounded (n * nineTenths) := by
    rw [scaledBy, rounded_natCast hsmall.le (by omega)]
  have hnext : scaledBy nineTenths (n + 1) = rounded ((n + 1 : ℕ) * nineTenths) := by
    rw [scaledBy, rounded_natCast (by omega) (by omega)]
  obtain ⟨k, hk⟩ := Int.eq_ofNat_of_zero_le (Int.floor_nonneg.2 (rounded_nonneg (rounded n * nineTenths)))
  change ⌊scaledBy nineTenths n⌋ = k at hk
  have hkle : (k : ℚ) ≤ scaledBy nineTenths n := by
    have hfloor := Int.floor_le (scaledBy nineTenths n)
    rwa [hk, Int.cast_natCast] at hfloor
  have hkn : k ≤ n := by exact_mod_cast hkle.trans (scaledBy_nineTenths_le hn)
  rw [hk, Int.cast_natCast] at h ⊢
  by_contra hlt
  have hproduct : ((n + 1 : ℕ) * nineTenths : ℚ) < (k + 1 : ℕ) := by
    by_contra hle
    have hmono := rounded_mono (by positivity) (not_lt.1 hle)
    rw [rounded_natCast (by omega) (by omega), ← hnext, Nat.cast_add_one] at hmono
    exact hlt hmono
  have htenths : 9 * n ≤ 10 * k := by
    have hstrict : (9 * (n + 1) : ℚ) < 10 * (k + 1) := by
      norm_num [nineTenths] at hproduct
      linarith
    have hstrict' : 9 * (n + 1) < 10 * (k + 1) := by exact_mod_cast hstrict
    omega
  have htenths' : (9 * n : ℚ) ≤ 10 * k := by exact_mod_cast htenths
  have hpos : 0 < n * nineTenths := mul_pos (by linarith) nineTenths_pos
  refine h ?_
  rw [hexact] at hkle ⊢
  rcases le_or_gt (k : ℚ) (n * nineTenths) with hbelow | habove
  · refine (rounded_eq_of_abs_lt hpos ?_ ?_).symm
    · have hn53 : (n : ℚ) < 2 ^ 53 := by exact_mod_cast hsmall
      norm_num [nineTenths]
      linarith
    · rw [abs_of_nonneg (by linarith)]
      norm_num [nineTenths]
      linarith
  · refine le_antisymm hkle ?_
    have hmono := rounded_mono hpos habove.le
    rwa [rounded_natCast (by omega) (by omega)] at hmono

end factors

/-! ### Level 100 -/

/-- A value that is the level 100: the integer, or, unless the base stat is enormous, a binary64 number. -/
def IsHundred (level : Value) (base : ℕ) : Prop := level = .int 100 ∨ level.same (.int 100) = true ∧ base ≤ 2 ^ 40

/-- The stat at level 100 that a nature does not change, from the base stat and a quarter of the effort. -/
def plainStat (base quarter : ℕ) : ℕ := ⌊rounded ((2 * base + 31 + quarter : ℕ) : ℚ)⌋₊ + 5

section hundred

variable {b k : ℕ} {effort level : Value}

/-- A number times a level, divided by 100 and rounded down. -/
def atLevel (n : ℕ) (level : Value) : Outcome Int := do
  let product ← (Value.int n).mul level
  (← product.div (.int 100)).floor

theorem scaledStat_eq_atLevel (he : effort.int? = some (k : ℤ)) (hk : k < 2 ^ 53) :
    scaledStat (.int b) effort level = atLevel (2 * b + 31 + k / 4) level := by
  obtain ⟨q, hdiv, hquarter⟩ := Value.floor_int_div_int hk (n := 4) (by norm_num) (by norm_num)
  have hq : effort.div (.int 4) = .ok q := (Value.div_of_int? he _).trans hdiv
  have hdouble : Value.mul (.int 2) (.int b) = .ok (.int (2 * b)) := rfl
  have hsum : (Value.int (2 * b)).add (.int 31) = .ok (.int (2 * b + 31)) := rfl
  have hall : (Value.int (2 * b + 31)).add (.int ((k / 4 : ℕ) : ℤ)) = .ok (.int ((2 * b + 31 + k / 4 : ℕ) : ℤ)) := rfl
  simp only [scaledStat, hdouble, hsum, hq, hquarter, hall, atLevel, Outcome.ok_bind]

theorem stat_eq_atLevel (he : effort.int? = some (k : ℤ)) (hk : k < 2 ^ 53) :
    stat (.int b) effort level = (atLevel (2 * b + 31 + k / 4) level).map fun n => .int (n + 5) := by
  rw [stat, scaledStat_eq_atLevel he hk]
  rfl

private theorem same_hundred (h : level.same (.int 100) = true) :
    level = .int 100 ∨ ∃ c, level = .float c ∧ c.value? = some 100 := by
  cases level with
  | int n => exact .inl (by simpa [Value.same, Value.sameNumber, Value.number?, Value.Number.same,
      Value.Number.compare?] using h)
  | bool t => cases t <;> simp [Value.same, Value.sameNumber, Value.number?, Value.Number.same,
      Value.Number.compare?, compare, compareOfLessAndEq] at h
  | float c =>
    refine .inr ⟨c, rfl, ?_⟩
    have hcompare : c.compareInt? 100 = some .eq := by
      simpa [Value.same, Value.sameNumber, Value.number?, Value.Number.same, Value.Number.compare?] using h
    cases c with
    | finite s m e =>
      rw [compareInt?_eq rfl, Option.some.injEq, compare_eq_iff_eq] at hcompare
      exact congrArg some (by exact_mod_cast hcompare)
    | infinity s => cases s <;> simp [compareInt?] at hcompare
    | nan => cases hcompare
  | _ => simp [Value.same] at h

/-- At level 100 a number is only rounded. -/
private theorem atLevel_hundred {n : ℕ} (hn : 0 < n)
    (hlevel : level = .int 100 ∨ level.same (.int 100) = true ∧ n ≤ 2 ^ 42) :
    (rounded n < limit ∧ atLevel n level = .ok ⌊rounded n⌋) ∨
      (limit ≤ rounded n ∧ atLevel n level = .error .overflow) := by
  have hhundred : level = .int 100 ∨ n ≤ 2 ^ 42 ∧ ∃ c, level = .float c ∧ c.value? = some 100 := by
    rcases hlevel with h | ⟨hsame, hsmall⟩
    · exact .inl h
    · exact (same_hundred hsame).imp_right fun h => ⟨hsmall, h⟩
  rcases hhundred with rfl | ⟨hsmall, c, rfl, hc⟩
  · have hproduct : (Value.int n).mul (.int 100) = .ok (.int ((n * 100 : ℕ) : ℤ)) := rfl
    have hquotient : (((n * 100 : ℕ) : ℚ) / ((100 : ℕ) : ℚ)) = n := by
      push_cast
      field_simp
    rcases Value.int_div_int (n * 100) (n := 100) (by norm_num) with ⟨hlt, x, hx, hdiv⟩ | ⟨hle, hdiv⟩
    · rw [hquotient] at hlt hx
      refine .inl ⟨hlt, ?_⟩
      rw [Nat.cast_ofNat] at hdiv
      simp only [atLevel, hproduct, hdiv, Value.floor_float hx, bind, Except.bind]
    · rw [hquotient] at hle
      refine .inr ⟨hle, ?_⟩
      rw [Nat.cast_ofNat] at hdiv
      simp only [atLevel, hproduct, hdiv, bind, Except.bind]
  · -- the product and the quotient are exact
    have hexact : rounded n = n := rounded_natCast (by omega) hn
    have hproduct : rounded (n * 100 : ℚ) = n * 100 := by
      exact_mod_cast rounded_natCast (n := n * 100) (by omega) (by omega)
    have hhundred : rounded ((100 : ℕ) : ℚ) = ((100 : ℕ) : ℚ) := rounded_natCast (by norm_num) (by norm_num)
    have hpos : (0 : ℚ) < n := by exact_mod_cast hn
    have hproductLt : (n * 100 : ℚ) < limit := by
      exact_mod_cast natCast_lt_limit (n := n * 100) (by omega)
    have hlt : rounded n < limit := by
      rw [hexact]
      exact natCast_lt_limit (by omega)
    refine .inl ⟨hlt, ?_⟩
    rcases Value.int_mul_float (n := n) (by rwa [hexact]) hc (by norm_num) with ⟨-, x, hx, hmul⟩ | ⟨hle, -⟩
    · rw [hexact] at hx
      have hx := hx.value? (by rwa [hproduct])
      rw [hproduct] at hx
      obtain ⟨y, hy, hdiv⟩ := Value.float_div_int hx (by linarith) (n := 100) (by rw [hhundred]; norm_num)
        (by rw [hhundred]; exact natCast_lt_limit (by norm_num))
      rw [hhundred, Nat.cast_ofNat, mul_div_cancel_right₀ _ (by norm_num)] at hy
      rw [Nat.cast_ofNat] at hdiv
      simp only [atLevel, hmul, hdiv, Value.floor_float (hy.value? hlt), bind, Except.bind]
    · exact absurd hlt (not_lt.2 hle)

theorem stat_hundred (he : effort.int? = some (k : ℤ)) (hk : k ≤ 255) (hlevel : IsHundred level b) :
    (rounded ((2 * b + 31 + k / 4 : ℕ) : ℚ) < limit ∧
      stat (.int b) effort level = .ok (.int (plainStat b (k / 4)))) ∨
      (limit ≤ rounded ((2 * b + 31 + k / 4 : ℕ) : ℚ) ∧ stat (.int b) effort level = .error .overflow) := by
  have hlevel' : level = .int 100 ∨ level.same (.int 100) = true ∧ 2 * b + 31 + k / 4 ≤ 2 ^ 42 :=
    hlevel.imp_right fun h => ⟨h.1, by omega⟩
  rw [stat_eq_atLevel he (by omega)]
  refine (atLevel_hundred (by omega) hlevel').imp ?_ ?_
  · rintro ⟨hlt, hstat⟩
    refine ⟨hlt, ?_⟩
    rw [hstat, ← Int.natCast_floor_eq_floor (rounded_nonneg _)]
    rfl
  · rintro ⟨hle, hstat⟩
    rw [hstat]
    exact ⟨hle, rfl⟩

end hundred

private theorem plainStat_mono (b : ℕ) {q q' : ℕ} (h : q ≤ q') : plainStat b q ≤ plainStat b q' := by
  have hpos : 0 < 2 * b + 31 + q := by omega
  have hle : 2 * b + 31 + q ≤ 2 * b + 31 + q' := by omega
  have hrounded : rounded ((2 * b + 31 + q : ℕ) : ℚ) ≤ rounded ((2 * b + 31 + q' : ℕ) : ℚ) :=
    rounded_mono (by exact_mod_cast hpos) (by exact_mod_cast hle)
  exact Nat.add_le_add_right (Nat.floor_mono hrounded) 5

theorem five_le_plainStat (b q : ℕ) : 5 ≤ plainStat b q := Nat.le_add_left 5 _

/-- As long as all numbers are exact, more effort gives more speed. -/
private theorem plainStat_lt {b q : ℕ} (h : plainStat b 0 < 2 ^ 53) (hq : 0 < q) : plainStat b 0 < plainStat b q := by
  have hsmall : 2 * b + 31 < 2 ^ 53 := by
    by_contra hlarge
    have hrounded : rounded ((2 ^ 53 : ℕ) : ℚ) ≤ rounded ((2 * b + 31 + 0 : ℕ) : ℚ) :=
      rounded_mono (by norm_num) (by exact_mod_cast not_lt.1 hlarge)
    rw [rounded_natCast le_rfl (by norm_num)] at hrounded
    have hfloor := Nat.le_floor hrounded
    unfold plainStat at h
    omega
  have hnext : rounded ((2 * b + 32 : ℕ) : ℚ) ≤ rounded ((2 * b + 31 + q : ℕ) : ℚ) := by
    have hpos : 0 < 2 * b + 32 := by omega
    have hle : 2 * b + 32 ≤ 2 * b + 31 + q := by omega
    exact rounded_mono (by exact_mod_cast hpos) (by exact_mod_cast hle)
  rw [rounded_natCast (by omega) (by omega)] at hnext
  have hfloor := Nat.le_floor hnext
  unfold plainStat
  rw [rounded_natCast (by omega) (by omega), Nat.floor_natCast]
  omega

theorem plainStat_le {b q : ℕ} (hb : b < 2 ^ 200) (hq : q ≤ 63) : plainStat b q ≤ 2 ^ 203 := by
  have hrounded : rounded ((2 * b + 31 + q : ℕ) : ℚ) ≤ 2 ^ 202 :=
    rounded_le_two_pow (Nat.cast_nonneg _) (by exact_mod_cast (show 2 * b + 31 + q ≤ 2 ^ 202 by omega))
  have hfloor : ⌊rounded ((2 * b + 31 + q : ℕ) : ℚ)⌋₊ ≤ 2 ^ 202 := Nat.floor_le_of_le (by exact_mod_cast hrounded)
  unfold plainStat
  omega

private theorem floor_mul {n : ℕ} {m : ℤ} {c : Binary64} {factor : ℚ} {p : Value} (hn : 0 < n)
    (hc : c.value? = some factor)
    (hfactor : 0 < factor) (hmul : (Value.int n).mul (.float c) = .ok p) (hfloor : p.floor = .ok m) :
    m = ⌊scaledBy factor n⌋ := by
  have hpos : 0 < rounded n := one_pos.trans_le (one_le_rounded hn)
  rcases Value.int_mul_float hpos hc hfactor with ⟨-, x, hx, hok⟩ | ⟨-, herror⟩
  · rw [hok] at hmul
    cases hmul
    rcases hx.cases with ⟨-, hvalue⟩ | ⟨-, rfl⟩
    · rw [Value.floor_float hvalue] at hfloor
      cases hfloor
      rfl
    · cases hfloor
  · rw [herror] at hmul
    cases hmul

/-- The speed that a nature makes of a plain one. -/
def Pace.speed : Pace → ℕ → ℤ
  | slower, plain => ⌊scaledBy nineTenths plain⌋
  | steady, plain => plain
  | faster, plain => ⌊scaledBy elevenTenths plain⌋

theorem Pace.applied_int {n : ℕ} {pace : Pace} {w : Value} (hn : 0 < n) (h : pace.applied (.int n) = .ok w) :
    w = .int (pace.speed n) := by
  cases pace with
  | slower =>
    simp only [applied, Outcome.bind_eq_ok] at h
    obtain ⟨p, hp, m, hm, h⟩ := h
    cases h
    rw [floor_mul hn value?_nineTenths nineTenths_pos hp hm]
    rfl
  | steady =>
    cases h
    rfl
  | faster =>
    simp only [applied, Outcome.bind_eq_ok] at h
    obtain ⟨p, hp, m, hm, h⟩ := h
    cases h
    rw [floor_mul hn value?_elevenTenths elevenTenths_pos hp hm]
    rfl

/-! ### The speeds of a species -/

section range

variable {rules : Rules} {options : Fields Value} {made : Attributes} {name : Value} {b q : ℕ} {pace : Pace}

/-- The speed of a creature, from its effort and its nature. -/
theorem speed_of_make_hundred (hmade : Creature.make rules options = .ok made)
    (hname : options.get? "name" = some name) (hbase : baseStat rules name "spe" = .ok (.int b))
    (hlevel : IsHundred (Creature.levelOf options) b) :
    ∃ (e n : Value) (k : ℕ) (pace : Pace), Creature.effortIn options "spe" = .ok e ∧ e.int? = some (k : ℤ) ∧ k ≤ 255 ∧
      Creature.natureOf rules options = .ok n ∧ Pace.on "speed" n = .ok pace ∧
      (Value.creature made).attr "speed" = .ok (.int (pace.speed (plainStat b (k / 4)))) := by
  obtain ⟨name', b', e, s, n, pace, w, hname', hbase', he, ⟨k, hk, hle⟩, hs, hn, hpace, hw, hspeed⟩ :=
    Creature.stat_of_make (show ("spe", "speed") ∈ statNames by decide) hmade
  rw [hname] at hname'
  cases hname'
  rw [hbase] at hbase'
  cases hbase'
  rcases stat_hundred hk hle hlevel with ⟨-, hstat⟩ | ⟨-, hstat⟩
  · rw [hstat] at hs
    cases hs
    have hpos : 0 < plainStat b (k / 4) := by have := five_le_plainStat b (k / 4); omega
    obtain rfl := Pace.applied_int hpos hw
    exact ⟨e, n, k, pace, he, hk, hle, hn, hpace, hspeed⟩
  · rw [hstat] at hs
    cases hs

private theorem Pace.lowest_le_speed (hpace : pace ≠ slower) (b q : ℕ) :
    scaledBy nineTenths (plainStat b 0) ≤ pace.speed (plainStat b q) := by
  have hfive := five_le_plainStat b 0
  have hmono := plainStat_mono b (Nat.zero_le q)
  have hplain : scaledBy nineTenths (plainStat b 0) ≤ plainStat b q :=
    (scaledBy_nineTenths_le (by omega)).trans (by exact_mod_cast hmono)
  cases pace with
  | slower => exact absurd rfl hpace
  | steady => exact_mod_cast hplain
  | faster =>
    have hraised : ((plainStat b q : ℤ) : ℚ) ≤ scaledBy elevenTenths (plainStat b q) := by
      exact_mod_cast le_scaledBy_elevenTenths (n := plainStat b q) (by omega)
    have hfloor := Int.le_floor.2 hraised
    exact hplain.trans (by exact_mod_cast hfloor)

/-- Every speed is at least the least one, if that is rounded down. -/
theorem Pace.floor_lowest_le_speed (pace : Pace) (b q : ℕ) :
    ⌊scaledBy nineTenths (plainStat b 0)⌋ ≤ pace.speed (plainStat b q) := by
  by_cases hpace : pace = slower
  · subst hpace
    have hfive := five_le_plainStat b 0
    exact Int.floor_mono (scaledBy_mono nineTenths_pos (by omega) (plainStat_mono b (Nat.zero_le q)))
  · have hle := (Int.floor_le _).trans (lowest_le_speed hpace b q)
    exact_mod_cast hle

/-- Only the slowest of all can fall short of the least speed, and only if that is not whole. -/
theorem Pace.lowest_le_speed_iff (pace : Pace) (b q : ℕ) :
    scaledBy nineTenths (plainStat b 0) ≤ pace.speed (plainStat b q) ↔
      ¬(pace = slower ∧ q = 0 ∧ ¬scaledBy nineTenths (plainStat b 0) ≤ ⌊scaledBy nineTenths (plainStat b 0)⌋) := by
  have hfive := five_le_plainStat b 0
  constructor
  · rintro hle ⟨rfl, rfl, hwhole⟩
    exact hwhole hle
  · intro hslowest
    by_cases hpace : pace = slower
    · subst hpace
      by_cases hwhole : scaledBy nineTenths (plainStat b 0) ≤ ⌊scaledBy nineTenths (plainStat b 0)⌋
      · exact hwhole.trans (by exact_mod_cast floor_lowest_le_speed slower b q)
      · have hq : 0 < q := Nat.pos_of_ne_zero fun hq => hslowest ⟨rfl, hq, hwhole⟩
        have hfloor : (⌊scaledBy nineTenths (plainStat b 0)⌋ : ℚ) ≠ scaledBy nineTenths (plainStat b 0) :=
          fun heq => hwhole heq.ge
        have hsmall : plainStat b 0 < 2 ^ 53 := by
          by_contra hlarge
          exact hfloor (floor_scaledBy_nineTenths (not_lt.1 hlarge))
        have hnext := (floor_add_one_le (by omega) hfloor).trans
          (scaledBy_mono nineTenths_pos (by omega) (plainStat_lt hsmall hq))
        have hnext' : ⌊scaledBy nineTenths (plainStat b 0)⌋ + 1 ≤ slower.speed (plainStat b q) :=
          Int.le_floor.2 (by exact_mod_cast hnext)
        exact (Int.lt_floor_add_one _).le.trans (by exact_mod_cast hnext')
    · exact lowest_le_speed hpace b q

theorem Pace.speed_le_highest (pace : Pace) (b : ℕ) {q : ℕ} (hq : q ≤ 63) :
    (pace.speed (plainStat b q) : ℚ) ≤ scaledBy elevenTenths (plainStat b 63) := by
  have hfive := five_le_plainStat b q
  have hraised := scaledBy_mono elevenTenths_pos (by omega) (plainStat_mono b hq)
  have hplain : (plainStat b q : ℚ) ≤ scaledBy elevenTenths (plainStat b 63) :=
    (le_scaledBy_elevenTenths (by omega)).trans hraised
  cases pace with
  | slower => exact (Int.floor_le _).trans ((scaledBy_nineTenths_le (by omega)).trans hplain)
  | steady => exact_mod_cast hplain
  | faster => exact (Int.floor_le _).trans hraised

end range

end Docsmith.Battle
