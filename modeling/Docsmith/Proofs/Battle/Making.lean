import Docsmith.Proofs.Battle.Strike
import Docsmith.Proofs.Battle.Training
import Docsmith.Proofs.Value.Arithmetic

/-!
# How a nature changes a stat

A stat of a new creature is that of the base stat, the effort and the level, changed by the pace of the nature
(`Creature.stat_of_make`); the effort is a whole number from 0 to 255.
-/

namespace Docsmith.Battle

/-- What a nature does to an attribute. -/
inductive Pace where
  | slower
  | steady
  | faster
  deriving DecidableEq

namespace Pace

/-- The pace that a nature gives to an attribute.  If it should both raise and lower the attribute, the latter counts.
-/
def on (name : String) (nature : Value) : Outcome Pace := do
  match ← nature.field "increase" with
  | .null => .ok steady
  | increase =>
    if (← nature.field "decrease").isText name then .ok slower
    else if increase.isText name then .ok faster
    else .ok steady

/-- What becomes of an attribute. -/
def applied (pace : Pace) (speed : Value) : Outcome Value := do
  match pace with
  | slower => .ok (.int (← (← speed.mul (.decimal 9 1)).floor))
  | steady => .ok speed
  | faster => .ok (.int (← (← speed.mul (.decimal 11 1)).floor))

end Pace

namespace Creature

variable {rules : Rules} {s s' : Attributes} {code name : String}

/-- The nature is applied to the stats as they were before it. -/
private theorem pace_of_applyNature {nature v : Value} (h : (applyNature nature).apply s = (.ok (), s'))
    (hv : (Value.creature s).attr name = .ok v) (hname : name ≠ "increase_stat") :
    ∃ pace w, Pace.on name nature = .ok pace ∧ pace.applied v = .ok w ∧ (Value.creature s').attr name = .ok w := by
  rcases applyNature_eq_ok.1 h with
    ⟨hincrease, rfl⟩ | ⟨up, down, p, q, m, n, hincrease, hdecrease, hp, hm, hq, hn, rfl⟩
  · exact ⟨.steady, v, by simp [Pace.on, hincrease, bind, Except.bind], rfl, hv⟩
  have hpace : Pace.on name nature =
      if down = name then .ok .slower else if up = name then .ok .faster else .ok .steady := by
    simp [Pace.on, hincrease, hdecrease, Value.isText, bind, Except.bind]
  by_cases hdown : down = name
  · subst hdown
    cases hv.symm.trans hq
    obtain ⟨p', hp', hn⟩ := Outcome.bind_eq_ok.1 hn
    refine ⟨.slower, .int n, by rw [hpace, if_pos rfl], ?_, attr_put_self _ _ _⟩
    simp [Pace.applied, hp', hn, bind, Except.bind]
  · rw [attr_put_of_ne _ (Ne.symm hdown)]
    by_cases hup : up = name
    · subst hup
      cases hv.symm.trans hp
      obtain ⟨p', hp', hm⟩ := Outcome.bind_eq_ok.1 hm
      refine ⟨.faster, .int m, by rw [hpace, if_neg hdown, if_pos rfl], ?_, attr_put_self _ _ _⟩
      simp [Pace.applied, hp', hm, bind, Except.bind]
    · rw [attr_put_of_ne _ (Ne.symm hup), attr_put_of_ne _ hname]
      exact ⟨.steady, v, by rw [hpace, if_neg hdown, if_neg hup], rfl, hv⟩

private theorem setStats_stat {nature effort : Value} (hc : (code, name) ∈ statNames)
    (h : (setStats rules nature effort).apply s = (.ok (), s')) :
    ∃ base level v n pace w, (Value.creature s).attr "base_stats" = .ok base ∧
      (Value.creature s).attr "level" = .ok level ∧ statOf base effort level code = .ok v ∧
      Value.lookup rules.natures nature = .ok n ∧ Pace.on name n = .ok pace ∧ pace.applied v = .ok w ∧
      (Value.creature s').attr name = .ok w := by
  obtain ⟨base, level, plain, n, hbase, hlevel, hplain, hn, h⟩ := setStats_eq_ok.1 h
  obtain ⟨v, hv, hget⟩ := get?_plainStats hplain hc
  have hnames : ∀ c ∈ statNames, c.2 ≠ "increase_stat" := by decide
  have hnodup : plain.names.Nodup := by
    rw [names_plainStats hplain]
    decide
  have hattr := attr_of_get? (Fields.get?_overlay hnodup hget s)
  obtain ⟨pace, w, hpace, hw, hattr'⟩ := pace_of_applyNature h hattr (hnames _ hc)
  exact ⟨base, level, v, n, pace, w, hbase, hlevel, hv, hn, hpace, hw, hattr'⟩

/-- The nature that options give. -/
def natureOf (rules : Rules) (options : Fields Value) : Outcome Value :=
  Value.lookup rules.natures ((options.get? "nature").getD (.text "quirky"))

/-- The effort that options put into a stat. -/
def effortIn (options : Fields Value) (code : String) : Outcome Value := (effortOf options).getOr (.text code) (.int 0)

private theorem checkEffort_ok {v : Value} (h : checkEffort v = .ok ()) : ∃ k : ℕ, v.int? = some (k : ℤ) ∧ k ≤ 255 := by
  unfold checkEffort at h
  rw [Outcome.bind_eq_ok] at h
  obtain ⟨negative, hnegative, h⟩ := h
  split at h
  · cases h
  rw [Outcome.bind_eq_ok] at h
  obtain ⟨large, hlarge, h⟩ := h
  split at h
  · cases h
  rcases hv : v.int? with _ | n
  · simp [hv] at h
  rw [Value.lt_of_number? (Value.number?_of_int? hv) rfl] at hnegative
  rw [Value.lt_of_number? rfl (Value.number?_of_int? hv)] at hlarge
  have hlow : ¬n < 0 := by simp_all
  have hhigh : ¬255 < n := by simp_all
  obtain ⟨k, rfl⟩ := Int.eq_ofNat_of_zero_le (not_lt.1 hlow)
  exact ⟨k, rfl, by omega⟩

/-- Only a record can be asked for the effort in a stat and pass the checks, which look at all its values. -/
private theorem effortIn_ok {species moves level nature e : Value} {options : Fields Value}
    (h : checkOptions rules species moves level nature (effortOf options) = .ok ())
    (he : effortIn options code = .ok e) : ∃ k : ℕ, e.int? = some (k : ℤ) ∧ k ≤ 255 := by
  unfold effortIn at he
  generalize effortOf options = effort at h he
  simp only [checkOptions, Outcome.bind_eq_ok, Outcome.refuse_eq_ok] at h
  obtain ⟨-, -, -, -, -, -, -, -, -, -, -, -, codes, hcodes, h⟩ := h
  cases effort with
  | record fields =>
    cases hcodes
    rw [Value.getOr_record, Except.ok.injEq] at he
    rcases hget : Fields.get? code fields with _ | v
    · rw [hget, Option.getD_none] at he
      exact ⟨0, by simp [← he, Value.int?], by omega⟩
    · have hmem : Value.text code ∈ fields.map fun f => Value.text f.1 :=
        List.mem_map.2 ⟨(code, v), Fields.mem_of_get? hget, rfl⟩
      obtain ⟨w, hw, hcheck⟩ := Outcome.bind_eq_ok.1 (Outcome.forM_eq_ok h _ hmem)
      rw [hget, Option.getD_some] at he
      obtain rfl : v = w := by simpa [Value.item, Value.lookup, hget] using hw
      rw [← he]
      exact checkEffort_ok hcheck
  | creature attributes => cases hcodes
  | _ => cases he

theorem stat_of_make {options : Fields Value} {made : Attributes} (hc : (code, name) ∈ statNames)
    (h : make rules options = .ok made) :
    ∃ species b e v n pace w, options.get? "name" = some species ∧ baseStat rules species code = .ok b ∧
      effortIn options code = .ok e ∧ (∃ k : ℕ, e.int? = some (k : ℤ) ∧ k ≤ 255) ∧ stat b e (levelOf options) = .ok v ∧
      natureOf rules options = .ok n ∧ Pace.on name n = .ok pace ∧ pace.applied v = .ok w ∧
      (Value.creature made).attr name = .ok w := by
  obtain ⟨species, entry, types, base, number, given, moves, grown, hspecies, hcheck, hentry, -, hbase, hset, rfl⟩ :=
    make_ok h
  obtain ⟨base', level, v, n, pace, w, hbase', hlevel, hv, hn, hpace, hw, hattr⟩ := setStats_stat hc hset
  obtain rfl : base = base' := by simpa [Value.attr, Value.attr?, Fields.get?, newborn] using hbase'
  obtain rfl : levelOf options = level := by simpa [Value.attr, Value.attr?, Fields.get?, newborn] using hlevel
  simp only [statOf, Outcome.bind_eq_ok] at hv
  obtain ⟨b, hb, e, he, hv⟩ := hv
  refine ⟨species, b, e, v, n, pace, w, hspecies, ?_, he, effortIn_ok hcheck he, hv, hn, hpace, hw, ?_⟩
  · simp only [baseStat, Outcome.bind_eq_ok]
    exact ⟨entry, hentry, base, hbase, hb⟩
  · have hnames : ∀ c ∈ statNames, c.2 ∉ ["boosts", "volatile_status"] := by decide
    rw [attr_congr (get?_finished (hnames _ hc)), hattr]

end Creature

end Docsmith.Battle
