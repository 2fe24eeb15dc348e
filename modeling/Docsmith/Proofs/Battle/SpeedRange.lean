import Docsmith.Proofs.Battle.Speed

/-!
# The range of the speed

`speedRange` gives the least and the greatest speed of a species without rounding them down.  The speed of every
creature at level 100 lies between the two, if the lower one is rounded down; without that, the slowest creatures of
some species are below it (`speedRange_covers_rounded_down`).
-/

namespace Docsmith.Battle

open Binary64

section range

variable {rules : Rules} {options : Fields Value} {made : Attributes} {name : Value} {b : ℕ}

/-- The product of a plain stat and a factor. -/
def plainTimes (b k : ℕ) (factor : Value) : Outcome Value := stat (.int b) (.int k) (.int 100) >>= fun s => s.mul factor

private theorem plainTimes_cases (b : ℕ) {k : ℕ} {c : Binary64} {factor : ℚ} (hk : k ≤ 255)
    (hc : c.value? = some factor) (hfactor : 0 < factor) :
    (∃ x, plainTimes b k (.float c) = .ok (.float x) ∧ rounded (plainStat b (k / 4)) < limit ∧
      Rounds (rounded (plainStat b (k / 4)) * factor) x) ∨
      (2 ^ 200 ≤ b ∧ plainTimes b k (.float c) = .error .overflow) := by
  have hpos : 0 < plainStat b (k / 4) := by have := five_le_plainStat b (k / 4); omega
  have hlarge : ∀ {n : ℕ}, (b < 2 ^ 200 → n ≤ 2 ^ 203) → limit ≤ rounded n → 2 ^ 200 ≤ b := by
    intro n hle hlimit
    by_contra hb
    exact absurd (rounded_lt_limit (hle (not_le.1 hb)) (by norm_num)) (not_lt.2 hlimit)
  have hk' : (Value.int k).int? = some (k : ℤ) := rfl
  have hlevel : IsHundred (.int 100) b := .inl rfl
  rcases stat_hundred hk' hk hlevel with ⟨-, hstat⟩ | ⟨hlimit, hstat⟩
  · rcases Value.int_mul_float (one_pos.trans_le (one_le_rounded hpos)) hc hfactor with
      ⟨hlt, x, hx, hmul⟩ | ⟨hlimit, hmul⟩
    · exact .inl ⟨x, by rw [plainTimes, hstat]; exact hmul, hlt, hx⟩
    · refine .inr ⟨hlarge (fun hb => plainStat_le hb (by omega)) hlimit, ?_⟩
      rw [plainTimes, hstat]
      exact hmul
  · refine .inr ⟨hlarge (fun hb => by omega) hlimit, ?_⟩
    rw [plainTimes, hstat]
    rfl

private theorem speedRange_cases (hbase : baseStat rules name "spe" = .ok (.int b)) :
    (∃ lo hi, speedRange rules name = .ok [.float lo, .float hi] ∧
      lo.value? = some (scaledBy nineTenths (plainStat b 0)) ∧
      (hi.value? = some (scaledBy elevenTenths (plainStat b 63)) ∨ hi = .infinity false)) ∨
      (2 ^ 200 ≤ b ∧ speedRange rules name = .error .overflow) := by
  have hrange : speedRange rules name =
      plainTimes b 0 (.decimal 9 1) >>= fun lo => plainTimes b 252 (.decimal 11 1) >>= fun hi => .ok [lo, hi] := by
    simp only [speedRange, hbase, plainTimes, bind_assoc]
    rfl
  rw [hrange]
  rcases plainTimes_cases b (k := 0) (by omega) value?_nineTenths nineTenths_pos with
    ⟨lo, hlo, hlt, hlow⟩ | ⟨hb, herror⟩
  · have hpos : 0 < rounded (plainStat b 0) := by
      have hfive := five_le_plainStat b 0
      exact one_pos.trans_le (one_le_rounded (by omega))
    have hlow' : scaledBy nineTenths (plainStat b 0) < limit := by
      have hle : rounded (plainStat b 0) * nineTenths ≤ rounded (plainStat b 0) :=
        mul_le_of_le_one_right hpos.le (by norm_num [nineTenths])
      have hmono := rounded_mono (mul_pos hpos nineTenths_pos) hle
      rw [rounded_of_representable (representable_rounded (Nat.cast_nonneg (plainStat b 0))) hpos] at hmono
      exact hmono.trans_lt hlt
    rcases plainTimes_cases b (k := 252) (by omega) value?_elevenTenths elevenTenths_pos with
      ⟨hi, hhi, -, hhigh⟩ | ⟨hb, herror⟩
    · exact .inl ⟨lo, hi, Outcome.bind_eq_ok.2 ⟨_, hlo, Outcome.bind_eq_ok.2 ⟨_, hhi, rfl⟩⟩, hlow.value? hlow',
        hhigh.cases.imp And.right And.right⟩
    · exact .inr ⟨hb, Outcome.bind_eq_error.2 (.inr ⟨_, hlo, Outcome.bind_eq_error.2 (.inl herror)⟩)⟩
  · exact .inr ⟨hb, Outcome.bind_eq_error.2 (.inl herror)⟩

/-- Whether options describe a creature that is as slow as its species can be: with a nature that lowers the speed,
and without a full quarter of effort in it. -/
def isSlowest (rules : Rules) (options : Fields Value) : Bool := Outcome.holds do
  if (← Pace.on "speed" (← Creature.natureOf rules options)) = .slower then
    (← Creature.effortIn options "spe").lt (.int 4)
  else .ok false

/-- The speed of a creature at level 100 is between the ends of the range, if the lower one is rounded down; it is below
that end exactly if the creature is as slow as it can be and the end is not whole. -/
theorem speedRange_covers_rounded_down (hmade : Creature.make rules options = .ok made)
    (hname : options.get? "name" = some name) (hbase : baseStat rules name "spe" = .ok (.int b))
    (hlevel : IsHundred (Creature.levelOf options) b) :
    (∃ lo hi least v, speedRange rules name = .ok [lo, hi] ∧ (Value.creature made).attr "speed" = .ok (.int v) ∧
      lo.floor = .ok least ∧ least ≤ v ∧ (Value.int v).le hi = .ok true ∧
      (lo.le (.int v) = .ok true ↔ ¬(isSlowest rules options = true ∧ lo.le (.int least) = .ok false))) ∨
      (2 ^ 200 ≤ b ∧ speedRange rules name = .error .overflow) := by
  obtain ⟨e, n, k, pace, he, hk, hle, hn, hpace, hspeed⟩ := speed_of_make_hundred hmade hname hbase hlevel
  refine (speedRange_cases hbase).imp_left ?_
  rintro ⟨lo, hi, hrange, hlo, hhi⟩
  refine ⟨.float lo, .float hi, _, _, hrange, hspeed, Value.floor_float hlo, pace.floor_lowest_le_speed b _, ?_, ?_⟩
  · rcases hhi with hhi | rfl
    · rw [Value.int_le_float hhi, decide_eq_true (pace.speed_le_highest b (by omega))]
    · exact Value.int_le_infinity _
  · have hslowest : isSlowest rules options = true ↔ pace = .slower ∧ k / 4 = 0 := by
      have heffort : e.lt (.int 4) = .ok (decide ((k : ℤ) < 4)) := Value.lt_of_number? (Value.number?_of_int? hk) rfl
      by_cases hslow : pace = .slower
      · simp [isSlowest, hn, hpace, he, hslow, heffort, bind, Except.bind, Outcome.holds]
      · simp [isSlowest, hn, hpace, hslow, bind, Except.bind, Outcome.holds]
    rw [Value.float_le_int hlo, Value.float_le_int hlo, hslowest]
    simpa [and_assoc] using pace.lowest_le_speed_iff b (k / 4)

end range

/-- A spinda that is as slow as it can be. -/
def Sample.slowest : Fields Value :=
  [("name", .text "spinda"), ("moves", .list [.text "tackle"]), ("nature", .text "brave")]

theorem sample_speedRange_covers_rounded_down :
    ∃ made, Creature.make .standard Sample.slowest = .ok made ∧ isSlowest .standard Sample.slowest = true ∧
      ∃ lo hi least v, speedRange .standard (.text "spinda") = .ok [lo, hi] ∧
        (Value.creature made).attr "speed" = .ok (.int v) ∧ lo.floor = .ok least ∧ least ≤ v ∧
        (Value.int v).le hi = .ok true ∧
        (lo.le (.int v) = .ok true ↔
          ¬(isSlowest .standard Sample.slowest = true ∧ lo.le (.int least) = .ok false)) := by
  let made := (Creature.make .standard Sample.slowest).toOption.getD []
  have hmade : Creature.make .standard Sample.slowest = .ok made := Outcome.eq_ok_getD [] (by decide +kernel)
  refine ⟨made, hmade, by decide +kernel, ?_⟩
  have hname : Fields.get? "name" Sample.slowest = some (.text "spinda") := rfl
  have h := speedRange_covers_rounded_down (b := 60) hmade hname rfl (.inl rfl)
  exact h.resolve_right fun hlarge => absurd hlarge.1 (by norm_num)

/-- The slowest spinda has the speed 140, and the range starts with the product `156 * 0.9`. -/
theorem slowest_spinda_below_range :
    (do
      let made ← Creature.make .standard Sample.slowest
      let speed ← (Value.creature made).attr "speed"
      let range ← speedRange .standard (.text "spinda")
      let least ← (Value.list range).item (.int 0)
      return (speed.int?, ← speed.lt least) : Outcome (Option Int × Bool)).toOption = some (some 140, true) := by
  decide +kernel

end Docsmith.Battle
