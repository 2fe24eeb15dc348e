import Docsmith.Proofs.Battle.Growth
import Docsmith.Proofs.Value.Access
import Docsmith.Proofs.Value.Sign

/-!
# Ranges of damage

The range of an attack comes out of four estimates, the factors of types and boosts and the power of the move.  None
of these is negative: the estimates of base stats from zero on are not (`estimate_notNegative`), although the line
that they follow crosses zero below that, and all later steps add, multiply and divide.  The least damage is 0.85 of
the greatest, rounded down, so that a range that is found is an interval from zero on (`range_proper`).
-/

namespace Docsmith.Battle

open Binary64

/-- All base stats are integers from zero on. -/
def HasNaturalStats (creature : Value) : Prop :=
  ∀ stats code s, creature.field "baseStats" = .ok stats → stats.field code = .ok s → ∃ n : ℕ, s.int? = some (n : ℤ)

/-- All boosts, if there are any, are integers. -/
def HasWholeBoosts (creature : Value) : Prop :=
  ∀ boosts code b, creature.field "boosts" = .ok boosts → boosts.field code = .ok b → ∃ n : ℤ, b.int? = some n

/-- No factor of the chart is negative. -/
def Rules.HasUnsignedChart (rules : Rules) : Prop :=
  ∀ type entry attack m, Value.lookup rules.chart type = .ok entry → entry.item attack = .ok m →
    (Value.int 0).le m = .ok true

private theorem hasNaturalStats_record {fields stats : Fields Value}
    (hstats : fields.get? "baseStats" = some (.record stats))
    (h : ∀ f ∈ stats, ∃ n : ℕ, f.2 = .int n) : HasNaturalStats (.record fields) := by
  intro stats' code s hstats' hs
  cases hstats.symm.trans (Value.field_record_eq_ok.1 hstats')
  obtain ⟨n, rfl⟩ := h _ (Fields.mem_of_get? (Value.field_record_eq_ok.1 hs))
  exact ⟨n, rfl⟩

namespace Rules

private theorem hasUnsignedChart_of_forall {rules : Rules}
    (h : ∀ f ∈ rules.chart, ∃ factors, f.2 = .record factors ∧ ∀ g ∈ factors, (Value.int 0).le g.2 = .ok true) :
    rules.HasUnsignedChart := by
  intro type entry attack m hentry hm
  obtain ⟨name, rfl, hname⟩ := Value.lookup_eq_ok hentry
  obtain ⟨factors, hfactors, hall⟩ := h _ (Fields.mem_of_get? hname)
  cases hfactors
  obtain ⟨name', rfl, hname'⟩ := Value.lookup_eq_ok hm
  exact hall _ (Fields.mem_of_get? hname')

private theorem chartEntry_unsigned (twice half none : List String) :
    ∃ factors, chartEntry twice half none = .record factors ∧ ∀ g ∈ factors, (Value.int 0).le g.2 = .ok true := by
  refine ⟨_, rfl, fun g hg => ?_⟩
  simp only [List.mem_append, List.mem_map] at hg
  obtain (⟨t, -, rfl⟩ | ⟨t, -, rfl⟩) | ⟨t, -, rfl⟩ := hg
  · rfl
  · rfl
  · rfl

private theorem hasUnsignedChart_standard : standard.HasUnsignedChart := by
  refine hasUnsignedChart_of_forall ?_
  simp only [standard, List.forall_mem_cons]
  exact ⟨chartEntry_unsigned _ _ _, chartEntry_unsigned _ _ _, chartEntry_unsigned _ _ _, chartEntry_unsigned _ _ _,
    chartEntry_unsigned _ _ _, chartEntry_unsigned _ _ _, chartEntry_unsigned _ _ _, by simp⟩

end Rules

/-! ### Estimates -/

namespace DamageTable

section estimates

variable {stat v w : Value} {options : Fields Value}

private theorem base_of_int? {n : ℤ} (table : DamageTable) (h : stat.int? = some n) :
    table.base stat = table.base (.int n) := by
  have hnumber : stat.toNumber = (Value.int n).toNumber := by
    rw [Value.toNumber, Value.number?_of_int? h]
    rfl
  have hclosest : closest table.keys stat = closest table.keys (.int n) := by
    unfold closest
    rw [hnumber]
  rw [base, base, hnumber, hclosest]

private theorem interpolated_notNegative {d : ℤ} (hv : v.NotNegative) (hd : 0 ≤ d) (h : interpolated v d = .ok w) :
    w.NotNegative := by
  simp only [interpolated, Outcome.bind_eq_ok] at h
  obtain ⟨product, hproduct, half, hhalf, h⟩ := h
  have hsign := (Value.notNegative_decimal 19 2).mul (Value.notNegative_int hd) hproduct
  exact hv.add (hsign.div (Value.notNegative_int (by norm_num)) hhalf) h

private theorem base_notNegative (n : ℕ) (h : standard.base (.int n) = .ok w) : w.NotNegative := by
  have hn : (0 : ℚ) ≤ ((n : ℤ) : ℚ) := by positivity
  rcases lt_or_ge 252 n with hlast | hline
  · rcases le_or_gt n (2 ^ 40) with hle | hgt
    · obtain ⟨w', r, hw, hr, hclose⟩ := base_last (n := n) (by omega) (by exact_mod_cast hle)
      cases hw.symm.trans h
      refine Value.notNegative_of_amount? hr ?_
      unfold lastLine at hclose
      linarith [(abs_le.1 hclose).1]
    · -- too far from the last entry for the bounds on the errors, but above it
      obtain ⟨k, hnearest⟩ := exists_isNearest (n : ℤ) (show standard.keys ≠ [] by decide)
      obtain rfl := eq_last_of_isNearest hnearest (by omega)
      obtain ⟨v, hmem, hbase⟩ := base_of_isNearest keys_standard_sorted hnearest
      obtain rfl := eq_of_mem_last hmem
      rcases hbase with ⟨heq, -⟩ | hestimated
      · omega
      · exact interpolated_notNegative (Value.notNegative_int (by norm_num)) (by omega) (hestimated.symm.trans h)
  · obtain ⟨w', r, hw, hr, hclose⟩ := base_line (n := n) (by omega) (by exact_mod_cast hline)
    cases hw.symm.trans h
    refine Value.notNegative_of_amount? hr ?_
    unfold line at hclose
    linarith [(abs_le.1 hclose).1]

private theorem rounded_notNegative {places : ℕ} (hv : v.NotNegative) (h : rounded places v = .ok w) :
    w.NotNegative := by
  obtain ⟨n, hn, hsign⟩ := hv
  simp only [rounded, Value.toNumber, hn, Outcome.ok_bind] at h
  cases h
  cases n with
  | int k => exact Value.notNegative_int hsign
  | float x => exact Value.notNegative_float (Binary64.NotNegative.roundPlaces places hsign)

/-- A damage value of a base stat from zero on is not negative, whatever the options. -/
private theorem estimate_notNegative {n : ℕ} (hstat : stat.int? = some (n : ℤ))
    (h : standard.estimate stat options = .ok w) :
    w.NotNegative := by
  simp only [estimate, Outcome.ite_bind, Outcome.bind_eq_ok] at h
  obtain ⟨v₀, hbase, v₁, heffort, v₂, hkind, v₃, hnature, v₄, hthree, htwo⟩ := h
  rw [base_of_int? _ hstat] at hbase
  have h₀ := base_notNegative n hbase
  have h₁ : v₁.NotNegative := by
    split at heffort
    · exact h₀.add (Value.notNegative_int (by norm_num)) heffort
    · cases heffort
      exact h₀
  have h₂ : v₂.NotNegative := by
    split at hkind
    · exact h₁.add (Value.notNegative_int (by norm_num)) hkind
    · split at hkind
      · exact h₁.mul (Value.notNegative_int (by norm_num)) hkind
      · cases hkind
        exact h₁
  have h₃ : v₃.NotNegative := by
    split at hnature
    · exact h₂.mul (Value.notNegative_decimal 11 1) hnature
    · cases hnature
      exact h₂
  exact rounded_notNegative (rounded_notNegative h₃ hthree) htwo

private theorem estimate_baseStat_notNegative {creature stats : Value} {code : String}
    (hcreature : HasNaturalStats creature)
    (hstats : creature.field "baseStats" = .ok stats) (hstat : stats.field code = .ok stat)
    (h : standard.estimate stat options = .ok w) : w.NotNegative := by
  obtain ⟨n, hn⟩ := hcreature stats code stat hstats hstat
  exact estimate_notNegative hn h

end estimates

end DamageTable

/-! ### Factors -/

section factors

variable {rules : Rules} {move attacker defender creature factor w : Value} {code : String}

private theorem boostFactor_notNegative (hboosts : HasWholeBoosts creature)
    (h : boostFactor creature (.text code) = .ok w) :
    w.NotNegative := by
  simp only [boostFactor, Outcome.bind_eq_ok] at h
  obtain ⟨boosts, hfield, b, hb, up, hup, most, hmost, boosts', hfield', b', hb', down, hdown, least, hleast, h⟩ := h
  cases hfield.symm.trans hfield'
  cases hb.symm.trans hb'
  obtain ⟨n, hn⟩ := hboosts boosts code b hfield hb
  have hnumber := Value.number?_of_int? hn
  have hup' : (Value.int 2).add b = .ok (.int (2 + n)) := by
    rw [Value.add_of_number? rfl hnumber]
    rfl
  have hdown' : (Value.int 2).sub b = .ok (.int (2 - n)) := by
    rw [Value.sub, Value.toNumber, Value.toNumber, hnumber]
    rfl
  cases hup'.symm.trans hup
  cases hdown'.symm.trans hdown
  cases (Value.max_int 2 (2 + n)).symm.trans hmost
  cases (Value.max_int 2 (2 - n)).symm.trans hleast
  exact (Value.notNegative_int (le_max_of_le_left (by norm_num))).div
    (Value.notNegative_int (le_max_of_le_left (by norm_num))) h

/-- The factor of the boosts of one side. -/
private theorem boostSide_notNegative (hboosts : HasWholeBoosts creature)
    (h : (do if ← creature.contains (.text "boosts") then boostFactor creature (.text code) else .ok (.int 1) :
      Outcome Value) = .ok w) : w.NotNegative := by
  rw [Outcome.bind_eq_ok] at h
  obtain ⟨boosted, -, h⟩ := h
  split at h
  · exact boostFactor_notNegative hboosts h
  · cases h
    exact Value.notNegative_int (by norm_num)

private theorem boostRatio_notNegative (hattacker : HasWholeBoosts attacker) (hdefender : HasWholeBoosts defender)
    (h : DamageTable.boostRatio move attacker defender = .ok w) : w.NotNegative := by
  rw [DamageTable.boostRatio, Outcome.bind_eq_ok] at h
  obtain ⟨category, -, h⟩ := h
  rw [Outcome.bind_eq_ok] at h
  obtain ⟨attack, hattack, h⟩ := h
  rw [Outcome.bind_eq_ok] at h
  obtain ⟨defence, hdefence, h⟩ := h
  exact (boostSide_notNegative hattacker hattack).div (boostSide_notNegative hdefender hdefence) h

private theorem typeFactor_notNegative {type : Value} (hchart : rules.HasUnsignedChart) (hfactor : factor.NotNegative)
    (h : typeFactor rules move factor type = .ok w) : w.NotNegative := by
  simp only [typeFactor, Outcome.bind_eq_ok] at h
  obtain ⟨attack, -, entry, hentry, listed, -, h⟩ := h
  split at h
  · obtain ⟨m, hm, h⟩ := Outcome.bind_eq_ok.1 h
    exact hfactor.mul (Value.notNegative_of_le (hchart type entry attack m hentry hm)) h
  · cases h
    exact hfactor

private theorem foldlM_typeFactor_notNegative {types : List Value} (hchart : rules.HasUnsignedChart)
    (hfactor : factor.NotNegative) (h : types.foldlM (typeFactor rules move) factor = .ok w) : w.NotNegative := by
  induction types generalizing factor with
  | nil =>
    cases h
    exact hfactor
  | cons t types ih =>
    rw [List.foldlM_cons, Outcome.bind_eq_ok] at h
    obtain ⟨next, hnext, h⟩ := h
    exact ih (typeFactor_notNegative hchart hfactor hnext) h

private theorem typesFactor_notNegative (hchart : rules.HasUnsignedChart)
    (h : typesFactor rules move attacker defender = .ok w) : w.NotNegative := by
  simp only [typesFactor, Outcome.ite_bind, Outcome.bind_eq_ok] at h
  obtain ⟨attack, -, types, -, own, -, start, hstart, types', -, elements, -, h⟩ := h
  refine foldlM_typeFactor_notNegative hchart ?_ h
  split at hstart
  · exact (Value.notNegative_int (by norm_num)).mul (Value.notNegative_decimal 15 1) hstart
  · cases hstart
    exact Value.notNegative_int (by norm_num)

end factors

/-! ### Ranges -/

namespace DamageTable

variable {rules : Rules} {move attacker defender params : Value} {lo hi : ℤ}

/-- What is left of the damage if the attacker is burnt. -/
private theorem settled_burnt {most : Binary64} {v : Value} {burnt : Bool} (hmost : Settled most)
    (h : (if burnt then Value.mul (.decimal 5 1) (.float most) else .ok (.float most)) = .ok v) :
    ∃ z, v = .float z ∧ Settled z := by
  split at h
  · cases h
    obtain ⟨x, hx, hsign⟩ := Value.notNegative_decimal 5 1
    cases hx
    exact ⟨_, rfl, hsign.mul hmost.notNegative⟩
  · cases h
    exact ⟨_, rfl, hmost⟩

/-- The least damage is a share of the greatest. -/
private theorem within_share : (Value.decimal 85 2).Within 0 := Value.within_of_fraction? (by decide)

/-- The range of damage is an interval from zero on. -/
theorem range_proper (hpower : ∀ p, move.field "basePower" = .ok p → (Value.int 0).le p = .ok true)
    (hattacker : HasNaturalStats attacker) (hdefender : HasNaturalStats defender)
    (hattackerBoosts : HasWholeBoosts attacker) (hdefenderBoosts : HasWholeBoosts defender)
    (hchart : rules.HasUnsignedChart) (h : standard.range rules move attacker defender params = .ok (lo, hi)) :
    0 ≤ lo ∧ lo ≤ hi := by
  simp only [range, Outcome.ite_bind, Outcome.bind_eq_ok] at h
  obtain ⟨category, -, _, -, _, -, _, -, types, htypes, boosts, hboosts, factor, hfactor, h⟩ := h
  obtain ⟨own, hown, attackStat, hattackStat, _, -, attack, hattack, h⟩ := h
  obtain ⟨other, hother, pointsStat, hpointsStat, _, -, points, hpoints, h⟩ := h
  obtain ⟨other', hother', defenceStat, hdefenceStat, _, -, defence, hdefence, h⟩ := h
  obtain ⟨strong, hstrong, power, hfield, whole, hwhole, bulk, hbulk, share, hshare, h⟩ := h
  obtain ⟨status, -, most, hmost, part, hpart, least, hleast, greatest, hgreatest, h⟩ := h
  cases h
  have hfactor' := (typesFactor_notNegative hchart htypes).mul
    (boostRatio_notNegative hattackerBoosts hdefenderBoosts hboosts) hfactor
  have hattack' := estimate_baseStat_notNegative hattacker hown hattackStat hattack
  have hpoints' := estimate_baseStat_notNegative hdefender hother hpointsStat hpoints
  have hdefence' := estimate_baseStat_notNegative hdefender hother' hdefenceStat hdefence
  have hwhole' := (hattack'.mul hfactor' hstrong).mul (Value.notNegative_of_le (hpower power hfield)) hwhole
  -- a quotient has been rounded, so that a share of it, rounded in turn, is not above it
  obtain ⟨x, rfl, hx⟩ := hwhole'.exists_div (hpoints'.mul hdefence' hbulk) hshare
  obtain ⟨z, rfl, hz⟩ := settled_burnt hx hmost
  exact Value.floor_part_le_ceil hz within_share hpart hleast hgreatest

/-! ### A range -/

namespace Sample

/-- An attacker with the greatest boost of its attack, and burnt. -/
def ivysaur : Value :=
  .record
    [("types", .list [.text "Grass", .text "Poison"]), ("status", .text burn), ("boosts", .record [("atk", .int 6)]),
     ("baseStats", .record [("atk", .int 62)])]

/-- A defender without boosts. -/
def floatzel : Value :=
  .record [("types", .list [.text "Water"]), ("baseStats", .record [("hp", .int 85), ("def", .int 55)])]

/-- A physical move. -/
def seedBomb : Value := .record [("type", .text "Grass"), ("category", .text "Physical"), ("basePower", .int 80)]

/-- Options with full effort for the attack. -/
def fullEffort : Value :=
  .record [("atk", .record [("max_evs", .bool true)]), ("hp", .record []), ("def", .record [])]

private theorem hasWholeBoosts_ivysaur : HasWholeBoosts ivysaur := by
  intro boosts code b hboosts hb
  have hfield : ivysaur.field "boosts" = .ok (.record [("atk", .int 6)]) := rfl
  cases hfield.symm.trans hboosts
  cases List.mem_singleton.1 (Fields.mem_of_get? (Value.field_record_eq_ok.1 hb))
  exact ⟨6, rfl⟩

private theorem hasWholeBoosts_floatzel : HasWholeBoosts floatzel := by
  intro boosts code b hboosts hb
  cases hboosts

private theorem range_sample : standard.range .standard seedBomb ivysaur floatzel fullEffort = .ok (168, 199) :=
  Outcome.eq_ok_of_toOption (by decide +kernel)

end Sample

/-- A range that boosts, types, options and a burn all change. -/
theorem sample_range_proper :
    standard.range .standard Sample.seedBomb Sample.ivysaur Sample.floatzel Sample.fullEffort = .ok (168, 199) ∧
      (0 : ℤ) ≤ 168 ∧ (168 : ℤ) ≤ 199 := by
  refine ⟨Sample.range_sample, range_proper ?_ ?_ ?_ Sample.hasWholeBoosts_ivysaur Sample.hasWholeBoosts_floatzel
    Rules.hasUnsignedChart_standard Sample.range_sample⟩
  · intro p hp
    cases hp
    rfl
  · exact hasNaturalStats_record rfl (by simpa using ⟨62, rfl⟩)
  · exact hasNaturalStats_record rfl (by simpa using ⟨⟨85, rfl⟩, ⟨55, rfl⟩⟩)

end DamageTable

end Docsmith.Battle
