import Docsmith.Proofs.Battle.Boost
import Docsmith.Proofs.Battle.Speed

/-!
# Fighters

The least stat is 5, a nature leaves at least 4 of it (`Pace.four_le_speed`), and the lowest boost a quarter of that
(`quarter_le_boost`).  So the stats of a fighter stay positive after boosts, as long as no state halves them; and if
the base stats are not enormous, they stay far below what could overflow (`Fighter.effectiveStatOf`).
-/

namespace Docsmith.Battle

open Binary64

/-! ### Stats at any level -/

theorem within_of_isLevel {v : Value} (h : isLevel v = true) : v.Within 7 := by
  unfold isLevel at h
  split at h
  next n hn =>
    obtain ⟨i, hi, hsame⟩ := List.any_eq_true.1 h
    have hi' : i + 1 ≤ 2 ^ 7 := by
      have := List.mem_range.1 hi
      omega
    refine ⟨(i + 1 : ℕ), ?_, Nat.cast_nonneg _, by exact_mod_cast hi'⟩
    rw [Value.amount?, hn]
    exact_mod_cast Value.Number.amount?_of_same hsame
  next => cases h

theorem isLevel_of_make {rules : Rules} {options : Fields Value} {made : Attributes}
    (h : Creature.make rules options = .ok made) : isLevel (Creature.levelOf options) = true := by
  obtain ⟨name, _, _, _, _, given, _, _, -, hcheck, -⟩ := Creature.make_ok h
  simp only [checkOptions, Outcome.bind_eq_ok, Outcome.refuse_eq_ok] at hcheck
  obtain ⟨-, -, -, -, -, -, -, -, hlevel, -⟩ := hcheck
  simpa using hlevel

section stats

variable {n k : ℕ} {level : Value}

private theorem atLevel_natural (hn : n ≤ 2 ^ 23) (hlevel : level.Within 7) :
    ∃ m : ℕ, atLevel n level = .ok (m : ℤ) ∧ m ≤ 2 ^ 30 := by
  obtain ⟨p, hmul, hp⟩ := (Value.within_int hn).mul hlevel (by norm_num)
  obtain ⟨q, hdiv, hq⟩ := hp.div (d := 100) (by norm_num) (by norm_num) (by norm_num)
  obtain ⟨m, hfloor, hm⟩ := hq.floor
  refine ⟨m, ?_, hm⟩
  rw [Nat.cast_ofNat] at hdiv
  simp only [atLevel, hmul, hdiv, hfloor, Outcome.ok_bind]

/-- A nature takes at most one from the least stat. -/
private theorem Pace.four_le_speed (pace : Pace) (hn : 5 ≤ n) : 4 ≤ pace.speed n := by
  cases pace with
  | slower =>
    rw [Pace.speed, Int.le_floor]
    refine le_trans ?_ (scaledBy_mono nineTenths_pos (by norm_num) hn)
    have hfour : rounded ((4 : ℕ) : ℚ) = (4 : ℕ) := rounded_natCast (by norm_num) (by norm_num)
    have hfive : rounded ((5 : ℕ) : ℚ) = (5 : ℕ) := rounded_natCast (by norm_num) (by norm_num)
    have hmono := rounded_mono (x := ((4 : ℕ) : ℚ)) (y := (5 : ℕ) * nineTenths) (by norm_num) (by norm_num [nineTenths])
    rw [hfour] at hmono
    rw [scaledBy, hfive]
    exact_mod_cast hmono
  | steady =>
    rw [Pace.speed]
    omega
  | faster =>
    rw [Pace.speed, Int.le_floor]
    refine le_trans ?_ (le_scaledBy_elevenTenths (by omega))
    exact_mod_cast (show 4 ≤ n by omega)

private theorem Pace.speed_le (pace : Pace) (hn : 2 ≤ n) (hk : n ≤ 2 ^ k) : pace.speed n ≤ 2 ^ (k + 1) := by
  have hk' : (n : ℚ) ≤ 2 ^ k := by exact_mod_cast hk
  have hdouble : (2 ^ k : ℚ) ≤ 2 ^ (k + 1) := pow_le_pow_right₀ (by norm_num) (by omega)
  cases pace with
  | slower =>
    have hle := (Int.floor_le _).trans ((scaledBy_nineTenths_le hn).trans (hk'.trans hdouble))
    exact_mod_cast hle
  | steady =>
    have hle := hk'.trans hdouble
    rw [Pace.speed]
    exact_mod_cast hle
  | faster =>
    have hrounded := rounded_le_two_pow (Nat.cast_nonneg n) hk'
    have hproduct : rounded n * elevenTenths ≤ 2 ^ (k + 1) := by
      have hnonneg := rounded_nonneg n
      norm_num [elevenTenths, pow_succ]
      linarith
    have hle := (Int.floor_le _).trans
      (rounded_le_two_pow (mul_nonneg (rounded_nonneg n) elevenTenths_pos.le) hproduct)
    exact_mod_cast hle

end stats

private theorem quarter_le_boost {b : ℤ} (h : -6 ≤ b) : 1 / 4 ≤ ((max 2 (2 + b) : ℤ) / (max 2 (2 - b) : ℤ) : ℚ) := by
  have hup : (2 : ℚ) ≤ (max 2 (2 + b) : ℤ) := by exact_mod_cast le_max_left 2 (2 + b)
  have hdown : (0 : ℚ) < (max 2 (2 - b) : ℤ) := by exact_mod_cast (show (0 : ℤ) < max 2 (2 - b) by omega)
  have hdown' : ((max 2 (2 - b) : ℤ) : ℚ) ≤ 8 := by exact_mod_cast (show max 2 (2 - b) ≤ 8 by omega)
  rw [div_le_div_iff₀ (by norm_num) hdown]
  linarith

private theorem boost_le_four {b : ℤ} (h : b ≤ 6) : ((max 2 (2 + b) : ℤ) / (max 2 (2 - b) : ℤ) : ℚ) ≤ 4 := by
  have hup : ((max 2 (2 + b) : ℤ) : ℚ) ≤ 8 := by exact_mod_cast (show max 2 (2 + b) ≤ 8 by omega)
  have hdown : (2 : ℚ) ≤ (max 2 (2 - b) : ℤ) := by exact_mod_cast le_max_left 2 (2 - b)
  rw [div_le_iff₀ (by linarith)]
  linarith

/-! ### Fighters -/

/-- A creature in a battle: made from natural base stats up to `2 ^ 20` and a nature that changes nothing but stats,
with boosts from -6 to 6 and in any state. -/
structure Fighter (rules : Rules) where
  options : Fields Value
  species : Value
  types : List Value
  made : Attributes
  boosts : Value
  status : Value
  species_eq : options.get? "name" = some species
  types_eq : (Value.lookup rules.species species >>= Value.field "types") = .ok (.list types)
  base_le : ∀ c ∈ statNames, ∃ b : ℕ, baseStat rules species c.1 = .ok (.int b) ∧ b ≤ 2 ^ 20
  nature_fits : ∀ n, Creature.natureOf rules options = .ok n → Creature.IsTemper (statNames.map (·.2)) n
  made_eq : Creature.make rules options = .ok made
  boosts_le : ∀ c ∈ statNames, ∃ b : ℤ, boosts.item (.text c.1) = .ok (.int b) ∧ -6 ≤ b ∧ b ≤ 6

namespace Fighter

variable {rules : Rules} {code name : String}

/-- The attributes in a battle. -/
def attributes (f : Fighter rules) : Attributes := (f.made.put "boosts" f.boosts).put "status" f.status

private theorem exists_stat (f : Fighter rules) (hc : (code, name) ∈ statNames) :
    ∃ v : ℕ, (Value.creature f.made).attr name = .ok (.int v) ∧ 4 ≤ v ∧ v ≤ 2 ^ 32 := by
  obtain ⟨species, b, e, v, n, pace, w, hspecies, hb, -, ⟨k, hk, hle⟩, hv, -, -, hw, hattr⟩ :=
    Creature.stat_of_make hc f.made_eq
  cases f.species_eq.symm.trans hspecies
  obtain ⟨b', hb', hsmall⟩ := f.base_le _ hc
  cases hb.symm.trans hb'
  have hlevel := within_of_isLevel (isLevel_of_make f.made_eq)
  obtain ⟨m, hm, hmle⟩ := atLevel_natural (show 2 * b' + 31 + k / 4 ≤ 2 ^ 23 by omega) hlevel
  rw [stat_eq_atLevel hk (by omega), hm] at hv
  cases hv
  obtain rfl := Pace.applied_int (n := m + 5) (by omega) hw
  have hlow := pace.four_le_speed (show 5 ≤ m + 5 by omega)
  have hhigh := pace.speed_le (k := 31) (show 2 ≤ m + 5 by omega) (by omega)
  obtain ⟨u, hu⟩ := Int.eq_ofNat_of_zero_le (show 0 ≤ pace.speed (m + 5) by omega)
  rw [hu] at hattr hlow hhigh
  exact ⟨u, hattr, by omega, by exact_mod_cast hhigh⟩

/-- Boosts and the state are all that has changed. -/
private theorem get?_attributes (f : Fighter rules) (h : name ∉ ["boosts", "status"]) :
    f.attributes.get? name = f.made.get? name := by
  simp only [List.mem_cons, not_or] at h
  rw [attributes, Fields.get?_put_of_ne h.2.1, Fields.get?_put_of_ne h.1]

private theorem hasStat (f : Fighter rules) (hc : (code, name) ∈ statNames) :
    ∃ (v : ℕ) (b : ℤ), HasStat f.attributes code v b f.status ∧ 4 ≤ v ∧ v ≤ 2 ^ 32 ∧ -6 ≤ b ∧ b ≤ 6 := by
  obtain ⟨v, hv, hlow, hhigh⟩ := f.exists_stat hc
  obtain ⟨b, hb, hb', hb''⟩ := f.boosts_le _ hc
  have hnames : ∀ c ∈ statNames, c.2 ∉ ["boosts", "status"] := by decide
  refine ⟨v, b, ⟨⟨name, hc, ?_⟩, ⟨f.boosts, ?_, hb⟩, ?_⟩, hlow, hhigh, hb', hb''⟩
  · rw [Creature.attr_congr (f.get?_attributes (hnames _ hc)), hv]
  · exact Creature.attr_of_get? (by simp [attributes])
  · exact Creature.attr_of_get? (by simp [attributes])

private theorem attributes_of_make (f : Fighter rules) :
    f.attributes.get? "level" = some (Creature.levelOf f.options) ∧
      f.attributes.get? "types" = some (.list f.types) ∧ f.attributes.get? "effective_stat" = none := by
  have hnature : Creature.Tempered rules (Creature.natureName f.options) := fun entry hentry =>
    (f.nature_fits entry hentry).mono fun name hname => List.mem_cons_of_mem _ (List.mem_cons_of_mem _ hname)
  obtain ⟨species, entry, types, base, number, moves, hspecies, hentry, htypes, -, -, hleaves⟩ :=
    Creature.make_leaves hnature f.made_eq
  cases f.species_eq.symm.trans hspecies
  obtain rfl : types = .list f.types := by
    have htypes' := f.types_eq
    rw [hentry, Outcome.ok_bind, htypes] at htypes'
    exact Except.ok.inj htypes'
  refine ⟨?_, ?_, ?_⟩
  all_goals
    rw [f.get?_attributes (by decide), hleaves _ (by decide)]
    simp [Creature.newborn, Fields.get?]

theorem field_level (f : Fighter rules) :
    (Value.creature f.attributes).field "level" = .ok (Creature.levelOf f.options) :=
  (Value.field_creature _ (by decide)).trans (Creature.attr_of_get? f.attributes_of_make.1)

theorem field_types (f : Fighter rules) : (Value.creature f.attributes).field "types" = .ok (.list f.types) :=
  (Value.field_creature _ (by decide)).trans (Creature.attr_of_get? f.attributes_of_make.2.1)

/-- The lowest boost leaves a quarter of a stat that is at least 4, so that one remains unless the state halves it. -/
theorem effectiveStatOf (f : Fighter rules) (hc : (code, name) ∈ statNames) :
    ∃ n : ℕ, Creature.effectiveStatOf (.creature f.attributes) code = .ok (.int n) ∧ n ≤ 2 ^ 34 ∧
      (statusShare code f.status = 1 → 1 ≤ n) := by
  obtain ⟨v, b, hstat, hlow, hhigh, hb, hb'⟩ := f.hasStat hc
  obtain ⟨-, -, hmethod⟩ := f.attributes_of_make
  have hfloor := hstat.effectiveStat.trans (floor_boosted (show v < 2 ^ 50 by omega) hb hb')
  have hreceiver : (Value.creature f.attributes).receiver "effective_stat" = .ok f.attributes := by
    simp [Value.receiver, Fields.has, hmethod]
  have hquarter := quarter_le_boost hb
  have hfour := boost_le_four hb'
  rw [mul_div_assoc] at hfloor
  generalize ((max 2 (2 + b) : ℤ) / (max 2 (2 - b) : ℤ) : ℚ) = boost at hquarter hfour hfloor
  have hlow' : (4 : ℚ) ≤ v := by exact_mod_cast hlow
  have hhigh' : (v : ℚ) ≤ 2 ^ 32 := by exact_mod_cast hhigh
  have hone : 1 ≤ v * boost := by nlinarith
  have hshare : (1 : ℚ) ≤ statusShare code f.status := by exact_mod_cast one_le_statusShare code f.status
  have hle : v * boost / statusShare code f.status ≤ 2 ^ 34 := (div_le_self (by linarith) hshare).trans (by nlinarith)
  refine ⟨⌊v * boost / statusShare code f.status⌋₊, ?_, Nat.floor_le_of_le (by exact_mod_cast hle), fun heq => ?_⟩
  · rw [Creature.effectiveStatOf, hreceiver, Outcome.ok_bind, hfloor, Int.natCast_floor_eq_floor (by positivity)]
    rfl
  · rw [heq, Nat.cast_one, div_one]
    exact Nat.le_floor (by exact_mod_cast hone)

end Fighter

end Docsmith.Battle
