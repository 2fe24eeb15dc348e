import Docsmith.Proofs.Battle.Fighter

/-!
# Damage

The damage of an attack among fighters.  The only divisor that is not a constant is the defence, and no state halves
that one, so that it is never zero (`ratio_within`).  All other steps add and multiply numbers from 0 to some power of
two, far from the largest one, so that the damage is a natural number (`damage_natural`).
-/

namespace Docsmith.Battle

open Binary64

/-- A move of any category with a natural power up to `2 ^ 20`. -/
structure IsBlow (move : Value) : Prop where
  category : ∃ c, move.field "category" = .ok c
  power : ∃ p : ℕ, move.field "basePower" = .ok (.int p) ∧ p ≤ 2 ^ 20
  type : ∃ t, move.field "type" = .ok t ∧ t.isKey = true

/-- A type against which the chart has factors from 0 to 2. -/
def Charted (rules : Rules) (type : Value) : Prop :=
  ∃ entry, Value.lookup rules.chart type = .ok (.record entry) ∧ ∀ f ∈ entry, f.2.Within 1

section damage

variable {rules : Rules} {move power : Value} {attack defence name name' : String}

/-- The strength of an attack is divided by a defence, which is never zero: no state halves it. -/
private theorem ratio_within (attacker defender : Fighter rules) (hpower : power.Within 29)
    (hattack : (attack, name) ∈ statNames) (hdefence : (defence, name') ∈ statNames)
    (hsteady : ∀ status, statusShare defence status = 1) :
    ∃ share, (do
        let strength ← (← power.mul (← Creature.effectiveStatOf (.creature attacker.attributes) attack)).floor
        Value.div (.int strength) (← Creature.effectiveStatOf (.creature defender.attributes) defence)) = .ok share ∧
      share.Within 63 := by
  obtain ⟨m, hm, hmle, -⟩ := attacker.effectiveStatOf hattack
  obtain ⟨n, hn, hnle, hpos⟩ := defender.effectiveStatOf hdefence
  obtain ⟨p, hmul, hp⟩ := hpower.mul (Value.within_int hmle) (by norm_num)
  obtain ⟨strength, hfloor, hstrength⟩ := hp.floor
  obtain ⟨share, hdiv, hshare⟩ :=
    (Value.within_int hstrength).div (hpos (hsteady defender.status)) (show n ≤ 2 ^ 53 by omega) (by norm_num)
  exact ⟨share, by simp only [hm, hmul, hfloor, hn, hdiv, Outcome.ok_bind], hshare⟩

private theorem fiftieth_natural {share : Value} (h : share.Within 63) :
    ∃ n : ℕ, (do .ok ((← (← share.div (.int 50)).floor) + 2) : Outcome Int) = .ok (n : ℤ) ∧ n ≤ 2 ^ 64 := by
  obtain ⟨q, hdiv, hq⟩ := h.div (d := 50) (by norm_num) (by norm_num) (by norm_num)
  obtain ⟨n, hfloor, hn⟩ := hq.floor
  rw [Nat.cast_ofNat] at hdiv
  exact ⟨n + 2, by rw [hdiv, Outcome.ok_bind, hfloor]; rfl, by omega⟩

private theorem baseDamage_natural (attacker defender : Fighter rules) (hmove : IsBlow move) :
    ∃ n : ℕ, baseDamage move (.creature attacker.attributes) (.creature defender.attributes) = .ok (n : ℤ) ∧
      n ≤ 2 ^ 64 := by
  obtain ⟨⟨category, hcategory⟩, ⟨p, hp, hple⟩, -⟩ := hmove
  have htwo : (Value.int 2).Within 1 := Value.within_int (n := 2) (by norm_num)
  obtain ⟨double, hdouble, hwithin⟩ := htwo.mul (within_of_isLevel (isLevel_of_make attacker.made_eq)) (by norm_num)
  obtain ⟨fifth, hfifth, hwithin⟩ := hwithin.div (d := 5) (by norm_num) (by norm_num) (by norm_num)
  obtain ⟨sum, hsum, hwithin⟩ := hwithin.add (htwo.mono (by norm_num)) (by norm_num)
  obtain ⟨whole, hwhole, hwholeLe⟩ := hwithin.floor
  obtain ⟨power, hpower, hwithin⟩ := (Value.within_int hwholeLe).mul (Value.within_int hple) (by norm_num)
  rw [Nat.cast_ofNat] at hfifth
  simp only [baseDamage, attacker.field_level, hdouble, hfifth, hsum, hwhole, hp, hpower, hcategory, Outcome.ok_bind]
  split
  · obtain ⟨share, hshare, hwithin⟩ := ratio_within attacker defender hwithin
      (show ("atk", "attack") ∈ statNames by decide) (show ("def", "defense") ∈ statNames by decide) fun _ => rfl
    simp only [hshare, Outcome.ok_bind]
    exact fiftieth_natural hwithin
  split
  · obtain ⟨share, hshare, hwithin⟩ := ratio_within attacker defender hwithin
      (show ("spa", "sp_attack") ∈ statNames by decide) (show ("spd", "sp_defense") ∈ statNames by decide) fun _ => rfl
    simp only [hshare, Outcome.ok_bind]
    exact fiftieth_natural hwithin
  · exact fiftieth_natural (hwithin.mono (by norm_num))

/-! ### Types -/

/-- The factor of a type of the defender is at most 2. -/
private theorem typeFactor_within {k : ℕ} {type factor : Value} (hmove : IsBlow move) (htype : Charted rules type)
    (hfactor : factor.Within k) (hk : k + 1 < 1024) :
    ∃ w, typeFactor rules move factor type = .ok w ∧ w.Within (k + 1) := by
  obtain ⟨t, ht, hkey⟩ := hmove.type
  obtain ⟨entry, hentry, hall⟩ := htype
  rw [typeFactor, ht, Outcome.ok_bind, hentry, Outcome.ok_bind]
  cases t with
  | text name =>
    rw [Value.contains_record, Outcome.ok_bind]
    rcases hget : Fields.get? name entry with _ | v
    · simp only [Fields.has, hget, Option.isSome_none, Bool.false_eq_true, if_false]
      exact ⟨factor, rfl, hfactor.mono (by omega)⟩
    · simp only [Fields.has, hget, Option.isSome_some, if_true, Value.item, Value.lookup, Outcome.ok_bind]
      exact hfactor.mul (hall _ (Fields.mem_of_get? hget)) hk
  | list vs => cases hkey
  | record fs => cases hkey
  | _ => exact ⟨factor, rfl, hfactor.mono (by omega)⟩

private theorem foldlM_typeFactor_within {k : ℕ} {types : List Value} {factor : Value} (hmove : IsBlow move)
    (htypes : ∀ t ∈ types, Charted rules t) (hfactor : factor.Within k) (hk : k + types.length < 1024) :
    ∃ w, types.foldlM (typeFactor rules move) factor = .ok w ∧ w.Within (k + types.length) := by
  induction types generalizing k factor with
  | nil => exact ⟨factor, rfl, hfactor⟩
  | cons t types ih =>
    obtain ⟨ht, htypes⟩ := List.forall_mem_cons.1 htypes
    rw [List.length_cons] at hk ⊢
    obtain ⟨next, hnext, hwithin⟩ := typeFactor_within hmove ht hfactor (by omega)
    obtain ⟨w, hw, hwithin⟩ := ih htypes hwithin (by omega)
    refine ⟨w, ?_, hwithin.mono (by omega)⟩
    rw [List.foldlM_cons, hnext, Outcome.ok_bind, hw]

private theorem within_threeHalves : (Value.decimal 15 1).Within 1 := Value.within_of_fraction? (by decide +kernel)

private theorem typesFactor_within (attacker defender : Fighter rules) (hmove : IsBlow move)
    (hcount : defender.types.length ≤ 2) (htypes : ∀ t ∈ defender.types, Charted rules t) :
    ∃ w, typesFactor rules move (.creature attacker.attributes) (.creature defender.attributes) = .ok w ∧
      w.Within 3 := by
  obtain ⟨t, ht, -⟩ := hmove.type
  have hone : (Value.int 1).Within 0 := Value.within_int (n := 1) (by norm_num)
  have hfold : ∀ {start : Value}, start.Within 1 →
      ∃ w, defender.types.foldlM (typeFactor rules move) start = .ok w ∧ w.Within 3 := by
    intro start hstart
    obtain ⟨w, hw, hwithin⟩ := foldlM_typeFactor_within hmove htypes hstart (by omega)
    exact ⟨w, hw, hwithin.mono (by omega)⟩
  simp only [typesFactor, ht, attacker.field_types, defender.field_types, Value.contains, Value.elements,
    Outcome.ok_bind]
  split
  · obtain ⟨start, hmul, hstart⟩ := hone.mul within_threeHalves (by norm_num)
    rw [hmul, Outcome.ok_bind]
    exact hfold hstart
  · exact hfold (hone.mono (by norm_num))

/-! ### Rolls -/

variable {rolls : Rolls}

/-- What remains after a roll. -/
def Rolls.skip (rolls : Rolls) : Rolls := { rolls with used := rolls.used + 1 }

/-- The next roll is one of the given ones. -/
theorem Rolls.next_apply (h : rolls.values ≠ []) :
    ∃ v ∈ rolls.values, Rolls.next.apply rolls = (.ok v, rolls.skip) := by
  have hlt : rolls.used % rolls.values.length < rolls.values.length :=
    Nat.mod_lt _ (List.length_pos_iff.2 h)
  have hget : rolls.values[rolls.used % rolls.values.length]? = some rolls.values[rolls.used % rolls.values.length] :=
    List.getElem?_eq_getElem hlt
  refine ⟨_, List.getElem_mem hlt, ?_⟩
  rw [Rolls.next, Change.get_bind_apply, hget]
  rfl

/-- How far the highest spread is from the lowest. -/
def spreadWidth : Binary64 := (ofDecimal false 100 (-((2 : ℕ) : ℤ))).sub (ofDecimal false 85 (-((2 : ℕ) : ℤ)))

theorem sub_eq_spreadWidth : (Value.decimal 100 2).sub (.decimal 85 2) = .ok (.float spreadWidth) := rfl

theorem within_spreadWidth : (Value.float spreadWidth).Within 0 := Value.within_of_fraction? (by decide +kernel)

private theorem Rolls.between_apply (h : rolls.values ≠ []) (hunit : ∀ v ∈ rolls.values, v.Within 0) :
    ∃ w, (Rolls.between (.decimal 85 2) (.decimal 100 2)).apply rolls = (.ok w, rolls.skip) ∧ w.Within 1 := by
  obtain ⟨v, hv, hnext⟩ := Rolls.next_apply h
  have hlow : (Value.decimal 85 2).Within 0 := Value.within_of_fraction? (by decide +kernel)
  obtain ⟨p, hmul, hp⟩ := within_spreadWidth.mul (hunit v hv) (by norm_num)
  obtain ⟨w, hadd, hw⟩ := hlow.add hp (by norm_num)
  refine ⟨w, ?_, hw⟩
  rw [Rolls.between, sub_eq_spreadWidth, Change.ok_bind, Change.apply_bind_of_ok hnext, hmul, Change.ok_bind, hadd]
  rfl

/-- The last step: the damage is spread and rounded down. -/
private theorem spread_natural (critical : Bool) {base : ℕ} {factor : Value} (hbase : base ≤ 2 ^ 64)
    (hfactor : factor.Within 4) (hrolls : rolls.values ≠ []) (hunit : ∀ v ∈ rolls.values, v.Within 0) :
    ∃ d : ℕ, (do
        let factor ← factor.mul (← Rolls.between (.decimal 85 2) (.decimal 100 2))
        return (← (← Value.mul (.int base) factor).floor, critical) : Change Rolls (Int × Bool)).apply rolls =
      (.ok ((d : ℤ), critical), rolls.skip) := by
  obtain ⟨spread, hspread, hwithin⟩ := Rolls.between_apply hrolls hunit
  obtain ⟨total, htotal, hwithin⟩ := hfactor.mul hwithin (by norm_num)
  obtain ⟨product, hproduct, hwithin⟩ := (Value.within_int hbase).mul hwithin (by norm_num)
  obtain ⟨d, hfloor, -⟩ := hwithin.floor
  refine ⟨d, ?_⟩
  rw [Change.apply_bind_of_ok hspread, htotal, Change.ok_bind, hproduct, Change.ok_bind, hfloor, Change.ok_bind]
  rfl

/-- No attack divides by zero: its damage is a natural number, whatever the rolls are. -/
theorem damage_natural (attacker defender : Fighter rules) (hmove : IsBlow move)
    (hcount : defender.types.length ≤ 2) (htypes : ∀ t ∈ defender.types, Charted rules t)
    (hrolls : rolls.values ≠ []) (hunit : ∀ v ∈ rolls.values, v.Within 0) :
    ∃ (d : ℕ) (critical : Bool) (rolls' : Rolls),
      (damage rules move (.creature attacker.attributes) (.creature defender.attributes)).apply rolls =
        (.ok ((d : ℤ), critical), rolls') := by
  obtain ⟨category, hcategory⟩ := hmove.category
  obtain ⟨base, hbase, hbaseLe⟩ := baseDamage_natural attacker defender hmove
  obtain ⟨factor, hfactor, hwithin⟩ := typesFactor_within attacker defender hmove hcount htypes
  rw [damage, hcategory, Change.ok_bind]
  split
  · exact ⟨0, false, rolls, rfl⟩
  obtain ⟨v, hv, hnext⟩ := Rolls.next_apply hrolls
  have hchance : criticalChance.Within 0 := Value.within_of_fraction? (by decide +kernel)
  obtain ⟨critical, hcritical⟩ := (hunit v hv).lt_ok hchance
  rw [hbase, Change.ok_bind, hfactor, Change.ok_bind, Change.apply_bind_of_ok hnext, hcritical, Change.ok_bind]
  have hrest := fun factor (h : Value.Within 4 factor) =>
    spread_natural critical hbaseLe h (show rolls.skip.values ≠ [] from hrolls) hunit
  cases critical with
  | true =>
    obtain ⟨raised, hraised, hwithin⟩ := hwithin.mul within_threeHalves (by norm_num)
    obtain ⟨d, hd⟩ := hrest raised hwithin
    refine ⟨d, true, rolls.skip.skip, ?_⟩
    rw [if_pos rfl, hraised]
    exact hd
  | false =>
    obtain ⟨d, hd⟩ := hrest factor (hwithin.mono (by norm_num))
    exact ⟨d, false, rolls.skip.skip, hd⟩

end damage

namespace Sample

/-- Options of a blissey of level 1. -/
def hatched : Fields Value := [("name", .text "blissey"), ("moves", .list [.text "tackle"]), ("level", .int 1)]

private theorem make_hatched :
    Creature.make .standard hatched = .ok ((Creature.make .standard hatched).toOption.getD []) :=
  Outcome.eq_ok_getD [] (by decide +kernel)

private theorem baseStat_blissey_le :
    ∀ c ∈ statNames, ∃ b : ℕ, baseStat .standard (.text "blissey") c.1 = .ok (.int b) ∧ b ≤ 2 ^ 20 := by
  simp only [statNames, List.forall_mem_cons]
  exact ⟨⟨10, rfl, by norm_num⟩, ⟨10, rfl, by norm_num⟩, ⟨75, rfl, by norm_num⟩, ⟨135, rfl, by norm_num⟩,
    ⟨55, rfl, by norm_num⟩, by simp⟩

private theorem nature_hatched (n : Value) (h : Creature.natureOf .standard hatched = .ok n) :
    Creature.IsTemper (statNames.map (·.2)) n := by
  cases h
  exact .inl rfl

/-- The lowest boosts. -/
def lowest : Value := .record (statNames.map fun c => (c.1, .int (-6)))

private theorem item_lowest : ∀ c ∈ statNames, ∃ b : ℤ, lowest.item (.text c.1) = .ok (.int b) ∧ -6 ≤ b ∧ b ≤ 6 := by
  simp only [statNames, List.forall_mem_cons]
  exact ⟨⟨-6, rfl, by norm_num⟩, ⟨-6, rfl, by norm_num⟩, ⟨-6, rfl, by norm_num⟩, ⟨-6, rfl, by norm_num⟩,
    ⟨-6, rfl, by norm_num⟩, by simp⟩

/-- A blissey of level 1 with the lowest boosts, and burnt. -/
def drained : Fighter .standard where
  options := hatched
  species := .text "blissey"
  types := [.text "Normal"]
  made := (Creature.make .standard hatched).toOption.getD []
  boosts := lowest
  status := .text burn
  species_eq := rfl
  types_eq := rfl
  base_le := baseStat_blissey_le
  nature_fits := nature_hatched
  made_eq := make_hatched
  boosts_le := item_lowest

/-- The weakest physical move. -/
def tap : Value := .record [("type", .text "Normal"), ("category", .text "Physical"), ("basePower", .int 0)]

private theorem isBlow_tap : IsBlow tap where
  category := ⟨_, rfl⟩
  power := ⟨0, rfl, by norm_num⟩
  type := ⟨_, rfl, rfl⟩

private theorem charted_normal : Charted .standard (.text "Normal") := by
  refine ⟨_, rfl, ?_⟩
  simp only [List.map_cons, List.map_nil, List.nil_append, List.cons_append, List.forall_mem_cons]
  refine ⟨Value.within_int (n := 2) (by norm_num), Value.within_int (n := 0) (by norm_num), by simp⟩

end Sample

/-- The defence that the strength of the attack is divided by is 1, the least possible. -/
theorem sample_damage_natural :
    Creature.effectiveStatOf (.creature Sample.drained.attributes) "def" = .ok (.int 1) ∧
    ∃ (d : ℕ) (critical : Bool) (rolls' : Rolls),
      (damage .standard Sample.tap (.creature Sample.drained.attributes) (.creature Sample.drained.attributes)).apply
        ⟨[.int 0, .decimal 99 2], 0⟩ = (.ok ((d : ℤ), critical), rolls') := by
  refine ⟨?_, damage_natural Sample.drained Sample.drained Sample.isBlow_tap (by decide) ?_ (by simp) ?_⟩
  · obtain ⟨n, hn, -⟩ := Sample.drained.effectiveStatOf (show ("def", "defense") ∈ statNames by decide)
    have hevaluated : (Creature.effectiveStatOf (.creature Sample.drained.attributes) "def").toOption.bind Value.int? =
        some 1 := by
      decide +kernel
    rw [hn] at hevaluated ⊢
    exact congrArg (Except.ok ∘ Value.int) (Option.some.inj hevaluated)
  · intro t ht
    rw [List.mem_singleton.1 ht]
    exact Sample.charted_normal
  · simp only [List.forall_mem_cons]
    exact ⟨Value.within_int (n := 0) (by norm_num), Value.within_of_fraction? (by decide +kernel), by simp⟩

end Docsmith.Battle
