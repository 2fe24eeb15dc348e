import Docsmith.Battle.Sparring
import Docsmith.Proofs.Battle.Damage

/-!
# Condition

What the state of a creature does to its attacks.  A state halves a stat or does not; creatures that differ in nothing
but their states, and have the same stats halved, are of the same strength, and their attacks do the same damage
(`SameStrength.damage_eq`).  Of the attacked an attack reads little (`SameDefence`), so that opponents who agree in that
are as good as each other (`SameDefence.damage_eq`).  A new state takes the place of the last one, so that only the last
one counts (`tired_tired`).
-/

namespace Docsmith

/-- Values under two names can be stored in either order, if one of the names is present. -/
private theorem Fields.put_comm {α : Type} {name other : String} (hne : name ≠ other) (v w : α) {fs : Fields α}
    (h : (fs.get? name).isSome) : (fs.put other w).put name v = (fs.put name v).put other w := by
  induction fs with
  | nil => cases h
  | cons f fs ih =>
    obtain ⟨k, u⟩ := f
    by_cases hname : k = name
    · subst hname
      simp [Fields.put, hne]
    · have hrest : (Fields.get? name fs).isSome := by simpa [Fields.get?, hname] using h
      by_cases hother : k = other
      · simp [Fields.put, hother, hne.symm]
      · simp [Fields.put, hname, hother, ih hrest]

namespace Battle

/-- Attributes that differ in nothing but the state, and states that halve the same stats. -/
structure SameStrength (a b : Attributes) : Prop where
  others : ∀ name, name ≠ "status" → name ≠ "status_turns" → a.get? name = b.get? name
  status : ∃ s t, a.get? "status" = some s ∧ b.get? "status" = some t ∧
    ∀ state ∈ [burn, paralysis], s.isText state = t.isText state

namespace SameStrength

variable {rules : Rules} {a b : Attributes}

private theorem attr_eq (h : SameStrength a b) {n : String} (hstatus : n ≠ "status") (hturns : n ≠ "status_turns") :
    (Value.creature a).attr n = (Value.creature b).attr n :=
  Creature.attr_congr (h.others n hstatus hturns)

private theorem field_eq (h : SameStrength a b) {n : String} (hstatus : n ≠ "status") (hturns : n ≠ "status_turns")
    (hstats : n ≠ "baseStats") : (Value.creature a).field n = (Value.creature b).field n := by
  rw [Value.field_creature _ hstats, Value.field_creature _ hstats, h.attr_eq hstatus hturns]

private theorem effectiveStat_eq (h : SameStrength a b) (code : Value) :
    Creature.effectiveStat a code = Creature.effectiveStat b code := by
  obtain ⟨s, t, hs, ht, hsame⟩ := h.status
  have hboosts := h.attr_eq (n := "boosts") (by decide) (by decide)
  have hfield : ∀ n ∈ ["attack", "defense", "sp_attack", "sp_defense", "speed"],
      (Value.creature a).field n = (Value.creature b).field n := by
    simp only [List.forall_mem_cons]
    refine ⟨?_, ?_, ?_, ?_, ?_, by simp⟩ <;> exact h.field_eq (by decide) (by decide) (by decide)
  simp only [List.forall_mem_cons] at hsame hfield
  unfold Creature.effectiveStat
  simp only [Creature.attr_of_get? hs, Creature.attr_of_get? ht, hboosts, Outcome.ok_bind]
  -- Each code names an attribute that is not the state.
  unfold Creature.statAttribute
  split
  case h_6 => rfl
  all_goals simp only [Outcome.ok_bind, hsame, hfield]

private theorem effectiveStatOf_eq (h : SameStrength a b) (code : String) :
    Creature.effectiveStatOf (.creature a) code = Creature.effectiveStatOf (.creature b) code := by
  have hmethod : Fields.has "effective_stat" a = Fields.has "effective_stat" b := by
    rw [Fields.has, Fields.has, h.others _ (by decide) (by decide)]
  simp only [Creature.effectiveStatOf, Value.receiver, hmethod]
  split
  · rfl
  · rw [Outcome.ok_bind, Outcome.ok_bind, h.effectiveStat_eq]

private theorem baseDamage_eq (h : SameStrength a b) (move defender : Value) :
    baseDamage move (.creature a) defender = baseDamage move (.creature b) defender := by
  simp only [baseDamage, h.field_eq (n := "level") (by decide) (by decide) (by decide), h.effectiveStatOf_eq]

theorem damage_eq (h : SameStrength a b) (move defender : Value) :
    damage rules move (.creature a) defender = damage rules move (.creature b) defender := by
  have htypes := h.field_eq (n := "types") (by decide) (by decide) (by decide)
  simp only [damage, h.baseDamage_eq, typesFactor, htypes]

end SameStrength

/-- Attributes that agree in all that an attack reads of the attacked. -/
def SameDefence (a b : Attributes) : Prop :=
  ∀ name ∈ ["types", "defense", "sp_defense", "boosts", "status", "effective_stat"], a.get? name = b.get? name

namespace SameDefence

variable {rules : Rules} {a b : Attributes}

private theorem attr_eq (h : SameDefence a b) {n : String}
    (hn : n ∈ ["types", "defense", "sp_defense", "boosts", "status", "effective_stat"]) :
    (Value.creature a).attr n = (Value.creature b).attr n :=
  Creature.attr_congr (h n hn)

private theorem field_eq (h : SameDefence a b) {n : String}
    (hn : n ∈ ["types", "defense", "sp_defense", "boosts", "status", "effective_stat"]) :
    (Value.creature a).field n = (Value.creature b).field n := by
  have hstats : n ≠ "baseStats" := by
    rintro rfl
    exact absurd hn (by decide)
  rw [Value.field_creature _ hstats, Value.field_creature _ hstats, h.attr_eq hn]

private theorem effectiveStatOf_eq (h : SameDefence a b) (code : String) (hcode : code ∈ ["def", "spd"]) :
    Creature.effectiveStatOf (.creature a) code = Creature.effectiveStatOf (.creature b) code := by
  have hmethod : Fields.has "effective_stat" a = Fields.has "effective_stat" b := by
    rw [Fields.has, Fields.has, h _ (by decide)]
  have hstat : Creature.effectiveStat a (.text code) = Creature.effectiveStat b (.text code) := by
    have hboosts := h.attr_eq (n := "boosts") (by decide)
    have hstatus := h.attr_eq (n := "status") (by decide)
    unfold Creature.effectiveStat
    simp only [hboosts, hstatus]
    rcases List.mem_pair.1 hcode with rfl | rfl
    · simp only [Creature.statAttribute, Outcome.ok_bind, h.field_eq (n := "defense") (by decide)]
    · simp only [Creature.statAttribute, Outcome.ok_bind, h.field_eq (n := "sp_defense") (by decide)]
  simp only [Creature.effectiveStatOf, Value.receiver, hmethod]
  split
  · rfl
  · rw [Outcome.ok_bind, Outcome.ok_bind, hstat]

private theorem typesFactor_eq (h : SameDefence a b) (move attacker : Value) :
    typesFactor rules move attacker (.creature a) = typesFactor rules move attacker (.creature b) := by
  simp only [typesFactor, h.field_eq (n := "types") (by decide)]

theorem damage_eq (h : SameDefence a b) (move attacker : Value) :
    damage rules move attacker (.creature a) = damage rules move attacker (.creature b) := by
  simp only [damage, baseDamage, h.typesFactor_eq, h.effectiveStatOf_eq "def" (by decide),
    h.effectiveStatOf_eq "spd" (by decide)]

theorem comparison_eq (h : SameDefence a b) (move : Value) (fighter : Attributes) :
    Sparring.comparison rules move ⟨fighter, a⟩ = Sparring.comparison rules move ⟨fighter, b⟩ := by
  simp only [Sparring.comparison, h.typesFactor_eq]

end SameDefence

namespace Sparring

theorem tired_tired (i j : ℕ) (a : Attributes) : tired i (tired j a) = tired i a := by
  unfold tired
  rw [Fields.put_comm (show "status" ≠ "status_turns" by decide) _ _ (by simp), Fields.put_put, Fields.put_put]

theorem get?_status_tired (i : ℕ) (a : Attributes) :
    (tired i a).get? "status" = some (states[i % states.length]?.getD .null) := by
  simp [tired]

theorem get?_tired {name : String} (i : ℕ) (a : Attributes) (hstatus : name ≠ "status")
    (hturns : name ≠ "status_turns") :
    (tired i a).get? name = a.get? name := by
  simp [tired, hstatus, hturns]

/-- What a new state costs is always a small number. -/
theorem statusDamage_tired (i : ℕ) (a : Attributes) :
    ∃ v, statusDamage (.creature (tired i a)) = .ok v ∧ v.Within 3 := by
  have hstatus := (Value.field_creature (tired i a) (show "status" ≠ "baseStats" by decide)).trans
    (Creature.attr_of_get? (get?_status_tired i a))
  have hturns : (Value.creature (tired i a)).field "status_turns" = .ok (.int (i % turnCount : ℕ)) :=
    (Value.field_creature _ (by decide)).trans (Creature.attr_of_get? (by simp [tired]))
  have hlt : i % states.length < 4 := Nat.mod_lt i (by decide)
  rw [statusDamage, hstatus, Outcome.ok_bind]
  generalize i % states.length = state at hlt ⊢
  interval_cases state
  · exact ⟨_, rfl, Value.within_int (n := 0) (by norm_num)⟩
  · exact ⟨_, rfl, Value.within_of_fraction? (by decide +kernel)⟩
  · exact ⟨_, rfl, Value.within_of_fraction? (by decide +kernel)⟩
  · -- Only the last state costs more with each turn.
    have hcount : i % turnCount + 1 ≤ 2 ^ 3 := by
      have := Nat.mod_lt i (show 0 < turnCount by decide)
      simp only [turnCount] at this ⊢
      omega
    have hone : (Value.decimal 10 1).Within 0 := Value.within_of_fraction? (by decide +kernel)
    obtain ⟨p, hmul, hp⟩ := (Value.within_int hcount).mul hone (by norm_num)
    obtain ⟨q, hdiv, hq⟩ := hp.div (d := 16) (by norm_num) (by norm_num) (by norm_num)
    refine ⟨q, ?_, hq⟩
    rw [hturns, Outcome.ok_bind]
    exact (congrArg (· >>= fun v : Value => v.div (.int 16)) hmul).trans hdiv

end Sparring

end Battle

end Docsmith
