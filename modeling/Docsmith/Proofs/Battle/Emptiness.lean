import Docsmith.Proofs.Battle.Narrowing

/-!
# Empty lists

A list of the attacks is never empty, and neither is any list of a creature once everything has been taken for possible
for it.  A defence that is only known from attacks starts with what the first attack allows, and this may be nothing:
its list is empty as long as no attack that meets it allows anything (`Unexplained`), and some list of a creature is
empty exactly if this is so for one of its defences (`list_empty_iff_unexplained`).
-/

namespace Docsmith.Battle

variable {rules : Rules} {s : Strike} {t t' : Tracker} {p : String} {physical : Bool} {xs : List Strike}
  {seen : Option (List Strike)}

/-! ### What a run shows of a creature -/

/-- Whether a creature is named when everything is taken for possible. -/
def named (team active : Value) (p : String) : Bool :=
  let isNamed := fun creature : Value => Outcome.holds do .ok ((← creature.field "name").isText p)
  isNamed active || match team.elements with
    | .ok members => members.any isNamed
    | .error _ => false

/-- The player's attacks on a creature since the last reset, if they were `seen` before a call; none are kept once
everything has been taken for possible for the creature. -/
def Call.exposure (p : String) (mine : Value) (seen : Option (List Strike)) : Call → Option (List Strike)
  | .reset => some []
  | .update _ _ => seen
  | .initialise team active => if named team active p then none else seen
  | .learn me turn => seen.map (· ++ (strikesIn mine me turn).filter (Strike.landsOn p))

/-- The attacks on a creature that a run shows, from the player's position at its start on. -/
def exposure (p : String) (mine : Value) (seen : Option (List Strike)) : List Call → Option (List Strike)
  | [] => seen
  | call :: calls => exposure p (call.position mine) (call.exposure p mine seen) calls

/-- A defence has been met, and no attack that met it allows any investment. -/
def Unexplained (rules : Rules) (physical : Bool) (xs : List Strike) : Prop :=
  (∃ x ∈ xs, x.isPhysical = physical) ∧ ∀ x ∈ xs, x.isPhysical = physical → x.defences rules = []

private theorem named_iff {team active : Value} : named team active p = true ↔ Tracker.Names team active p := by
  have hone : ∀ creature : Value, (Outcome.holds do .ok ((← creature.field "name").isText p)) = true ↔
      creature.field "name" = .ok (.text p) := by
    intro creature
    rcases creature.field "name" with fault | name
    · simp [bind, Except.bind, Outcome.holds]
    · cases name <;> simp [bind, Except.bind, Outcome.holds, Value.isText]
  unfold named Tracker.Names
  rcases team.elements with fault | members
  · simp [hone]
  · simp [hone]

private theorem unexplained_concat_of_ne (h : s.isPhysical ≠ physical) :
    Unexplained rules physical (xs ++ [s]) ↔ Unexplained rules physical xs := by
  simp [Unexplained, or_imp, forall_and, or_and_right, exists_or, h]

private theorem unexplained_concat_self : Unexplained rules s.isPhysical (xs ++ [s]) ↔
    (∀ x ∈ xs, x.isPhysical = s.isPhysical → x.defences rules = []) ∧ s.defences rules = [] := by
  simp [Unexplained, or_imp, forall_and, or_and_right, exists_or]

/-! ### Which lists are empty -/

namespace Tracker

theorem all_ne_nil : Investment.all ≠ [] := by simp [Investment.all, Investment.ways]

theorem orAll_ne_nil {vs all : List Value} (h : all ≠ []) : orAll vs all ≠ [] := by
  unfold orAll
  split
  next => exact h
  next hvs => simpa using hvs

private theorem DefenceStep.get?_ne_none {stat : String} {ways : List (Bool × Bool × Bool)}
    (hstep : DefenceStep p stat ways t t') : (t'.knowledge p).get? stat ≠ none := by
  by_cases hempty : t.possible p stat = []
  · simp [(hstep.first hempty).1]
  · simp [(hstep.again hempty).1]

/-- A defence has no entries after an attack if it had none before and the attack allows nothing. -/
private theorem DefenceStep.empty_iff {stat : String} {ways : List (Bool × Bool × Bool)}
    (hstep : DefenceStep p stat ways t t') :
    (t'.knowledge p).get? stat = some [] ↔ t.possible p stat = [] ∧ ways = [] := by
  by_cases hempty : t.possible p stat = []
  · simp [(hstep.first hempty).1, hempty]
  · simp [(hstep.again hempty).1, hempty, orAll_ne_nil all_ne_nil]

private theorem DefenceStep.points_empty {stat : String} {ways : List (Bool × Bool × Bool)}
    (hstep : DefenceStep p stat ways t t') (hpoints : (t'.knowledge p).get? "hp" = some []) :
    t.possible p stat = [] ∧ ways = [] := by
  by_cases hempty : t.possible p stat = []
  · refine ⟨hempty, ?_⟩
    rw [(hstep.first hempty).2] at hpoints
    split at hpoints
    · obtain ⟨vs, -, hvs⟩ := Option.map_eq_some_iff.1 hpoints
      simpa using (List.append_eq_nil_iff.1 hvs).2
    · simpa using hpoints
  · rw [(hstep.again hempty).2, Option.some.injEq] at hpoints
    exact absurd hpoints (orAll_ne_nil (by simp [Investment.allPoints]))

end Tracker

/-- The attacks seen on a creature tell which of its lists are empty. -/
structure Ledger (rules : Rules) (p : String) (seen : Option (List Strike)) (t : Tracker) : Prop where
  attack : ∀ stat ∈ ["atk", "spa"], (t.knowledge p).get? stat ≠ some []
  unmet : ∀ physical, (t.knowledge p).get? (defenceName physical) = none ↔
    ∃ xs, seen = some xs ∧ ∀ x ∈ xs, x.isPhysical ≠ physical
  empty : ∀ physical, (t.knowledge p).get? (defenceName physical) = some [] ↔
    ∃ xs, seen = some xs ∧ Unexplained rules physical xs
  points : (t.knowledge p).get? "hp" = some [] → ∃ physical, (t.knowledge p).get? (defenceName physical) = some []

namespace Ledger

private theorem congr (h : Ledger rules p seen t)
    (hsame : ∀ stat, stat ≠ "spe" → (t'.knowledge p).get? stat = (t.knowledge p).get? stat) :
    Ledger rules p seen t' := by
  have hdefence : ∀ physical, defenceName physical ≠ "spe" := by decide
  refine ⟨fun stat hstat => ?_, fun physical => ?_, fun physical => ?_, fun hpoints => ?_⟩
  · rw [hsame stat (by rintro rfl; simp at hstat)]
    exact h.attack stat hstat
  · rw [hsame _ (hdefence physical)]
    exact h.unmet physical
  · rw [hsame _ (hdefence physical)]
    exact h.empty physical
  · rw [hsame "hp" (by decide)] at hpoints
    obtain ⟨physical, hempty⟩ := h.points hpoints
    exact ⟨physical, (hsame _ (hdefence physical)).trans hempty⟩

private theorem of_open (h : t.Open p) : Ledger rules p none t := by
  have hdefence : ∀ physical, (t.knowledge p).get? (defenceName physical) = some Investment.all :=
    fun physical => h.stat _ (by cases physical <;> decide)
  refine ⟨fun stat hstat => ?_, fun physical => ?_, fun physical => ?_, fun hpoints => ?_⟩
  · rw [h.stat stat (by simp only [List.mem_cons] at hstat ⊢; grind)]
    simpa using Tracker.all_ne_nil
  · simp [hdefence]
  · simp [hdefence, Tracker.all_ne_nil]
  · rw [h.points] at hpoints
    simp [Investment.allPoints] at hpoints

private theorem of_unknown (h : ∀ stat, (t.knowledge p).get? stat = none) : Ledger rules p (some []) t := by
  refine ⟨fun stat _ => ?_, fun physical => ?_, fun physical => ?_, fun hpoints => ?_⟩
  · simp [h]
  · simp [h]
  · simp [h, Unexplained]
  · simp [h] at hpoints

/-- A defence that has no entries was not met, or no attack that met it allows any. -/
private theorem possible_eq_nil_iff (h : Ledger rules p seen t) (physical : Bool) :
    t.possible p (defenceName physical) = [] ↔
      ∃ xs, seen = some xs ∧ ∀ x ∈ xs, x.isPhysical = physical → x.defences rules = [] := by
  have hcases : t.possible p (defenceName physical) = [] ↔
      (t.knowledge p).get? (defenceName physical) = none ∨ (t.knowledge p).get? (defenceName physical) = some [] := by
    unfold Tracker.possible
    rcases (t.knowledge p).get? (defenceName physical) with _ | vs <;> simp
  rw [hcases, h.unmet, h.empty]
  cases seen with
  | none => simp
  | some xs =>
    by_cases hmet : ∃ x ∈ xs, x.isPhysical = physical
    · simp only [Option.some.injEq, exists_eq_left', Unexplained, hmet, true_and]
      obtain ⟨x, hx, heq⟩ := hmet
      exact or_iff_right fun hnone => hnone x hx heq
    · have hnone : ∀ x ∈ xs, x.isPhysical ≠ physical := fun x hx heq => hmet ⟨x, hx, heq⟩
      simp only [Option.some.injEq, exists_eq_left']
      exact ⟨fun _ x hx heq => absurd heq (hnone x hx), fun _ => .inl hnone⟩

private theorem defenceStep (h : Ledger rules p seen t)
    (hstep : Tracker.DefenceStep p (defenceName s.isPhysical) (s.defences rules) t t') :
    Ledger rules p (seen.map (· ++ [s])) t' := by
  have hother : ∀ physical, physical ≠ s.isPhysical →
      (t'.knowledge p).get? (defenceName physical) = (t.knowledge p).get? (defenceName physical) := by
    intro physical hne
    refine hstep.only.rest _ ?_
    revert hne
    cases physical <;> cases s.isPhysical <;> decide
  have hattack : ∀ stat ∈ ["atk", "spa"], (t'.knowledge p).get? stat = (t.knowledge p).get? stat := by
    intro stat hstat
    refine hstep.only.rest stat ?_
    simp only [List.mem_cons, List.not_mem_nil, or_false] at hstat
    rcases hstat with rfl | rfl <;> cases s.isPhysical <;> decide
  refine ⟨fun stat hstat => ?_, fun physical => ?_, fun physical => ?_, fun hpoints => ?_⟩
  · rw [hattack stat hstat]
    exact h.attack stat hstat
  · by_cases hp : physical = s.isPhysical
    · subst hp
      cases seen <;> simp [hstep.get?_ne_none]
    · have hp' : s.isPhysical ≠ physical := fun heq => hp heq.symm
      rw [hother physical hp, h.unmet]
      cases seen <;> simp [or_imp, forall_and, hp']
  · by_cases hp : physical = s.isPhysical
    · subst hp
      rw [hstep.empty_iff, h.possible_eq_nil_iff]
      cases seen <;> simp [unexplained_concat_self]
    · have hp' : s.isPhysical ≠ physical := fun heq => hp heq.symm
      rw [hother physical hp, h.empty]
      cases seen <;> simp [unexplained_concat_of_ne hp']
  · -- the hit points are empty only together with the defence that was met
    exact ⟨s.isPhysical, hstep.empty_iff.2 (hstep.points_empty hpoints)⟩

private theorem attackStep {ways : List (Bool × Bool)} (h : Ledger rules p seen t)
    (hstep : Tracker.AttackStep p s.attackStat ways t t') : Ledger rules p seen t' := by
  have hdefence : ∀ physical,
      (t'.knowledge p).get? (defenceName physical) = (t.knowledge p).get? (defenceName physical) :=
    fun physical => hstep.only.rest _ (s.defenceName_ne_attackStat physical)
  refine ⟨fun stat hstat => ?_, fun physical => ?_, fun physical => ?_, fun hpoints => ?_⟩
  · by_cases hs : stat = s.attackStat
    · subst hs
      by_cases hempty : t.possible p s.attackStat = []
      · rw [hstep.first hempty]
        simpa using Tracker.orAll_ne_nil Tracker.all_ne_nil
      · rw [hstep.again hempty]
        simpa using Tracker.orAll_ne_nil Tracker.all_ne_nil
    · rw [hstep.only.rest stat (by simpa using hs)]
      exact h.attack stat hstat
  · rw [hdefence, h.unmet]
  · rw [hdefence, h.empty]
  · rw [hstep.only.rest "hp" s.points_ne_attackStat] at hpoints
    obtain ⟨physical, hempty⟩ := h.points hpoints
    exact ⟨physical, (hdefence physical).trans hempty⟩

private theorem strike {me event : Value} (h : Ledger rules p seen t)
    (hlearn : (Tracker.learnEvent rules me event).apply t = (.ok (), t')) :
    Ledger rules p (seen.map (· ++ [⟨t.mine, me, event⟩].filter (Strike.landsOn p))) t' := by
  -- an attack that does not land on the creature leaves its list of attacks as it is
  have hmiss : Strike.landsOn p ⟨t.mine, me, event⟩ = false →
      (seen.map fun xs => xs ++ [⟨t.mine, me, event⟩].filter (Strike.landsOn p)) = seen := by
    intro hp
    simp [hp]
  rcases Tracker.learnEvent_cases hlearn with ⟨q, hq, hstep⟩ | ⟨q, hq, hstep⟩ | ⟨hno, -, hsame⟩
  · by_cases hpq : p = q
    · subst hpq
      rw [List.filter_cons_of_pos hq]
      exact h.defenceStep hstep
    · rw [hmiss (Bool.eq_false_iff.2 fun hp => hpq (Strike.landsOn_unique hp hq))]
      exact h.congr fun stat _ => by rw [hstep.only.knowledge_of_ne hpq]
  · have hp : Strike.landsOn p ⟨t.mine, me, event⟩ = false := by
      rw [Bool.eq_false_iff]
      intro hp
      rw [Strike.not_comesFrom_of_landsOn hp] at hq
      cases hq
    rw [hmiss hp]
    by_cases hpq : p = q
    · subst hpq
      exact h.attackStep hstep
    · exact h.congr fun stat _ => by rw [hstep.only.knowledge_of_ne hpq]
  · rw [hmiss (by simp [Strike.landsOn, hno])]
    exact h.congr fun stat _ => by rw [Tracker.knowledge, Tracker.knowledge, hsame]

private theorem call {call : Call} (h : Ledger rules p seen t) (hcall : (call.perform rules).apply t = (.ok (), t')) :
    Ledger rules p (call.exposure p t.mine seen) t' := by
  cases call with
  | reset =>
    cases hcall
    exact of_unknown fun _ => rfl
  | update mine theirs =>
    cases hcall
    exact h.congr fun _ _ => rfl
  | initialise team active =>
    rw [Call.exposure]
    split
    next hp => exact of_open (((Tracker.initialise_ok hcall).2 p).2 (named_iff.1 hp))
    next hp => exact h.congr fun stat _ => by rw [Tracker.initialise_others hcall (mt named_iff.2 hp)]
  | learn me turn =>
    -- the attacks of the turn join those seen one by one
    refine (Tracker.learnTurn_induction
      (P := fun xs u => Ledger rules p (seen.map (· ++ xs.filter (Strike.landsOn p))) u) ?_ ?_ [] ?_ hcall).1
    · intro xs u u' event hu hlearn
      have hnext := hu.strike hlearn
      simpa [Option.map_map, Function.comp_def] using hnext
    · intro xs u u' hu hspeed
      exact hu.congr fun stat hstat => Tracker.get?_of_besidesSpeed hspeed p hstat
    · simpa using h

private theorem run {calls : List Call} (h : Ledger rules p seen t)
    (hrun : (Battle.run rules calls).apply t = (.ok (), t')) :
    Ledger rules p (exposure p t.mine seen calls) t' := by
  induction calls generalizing t seen with
  | nil =>
    rw [Battle.run, Change.apply_pure, Prod.mk.injEq] at hrun
    obtain ⟨-, rfl⟩ := hrun
    exact h
  | cons call calls ih =>
    rw [Battle.run, Change.bind_eq_ok] at hrun
    obtain ⟨_, t₁, hfirst, hrest⟩ := hrun
    rw [exposure, ← perform_mine hfirst]
    exact ih (h.call hfirst) hrest

end Ledger

/-- Which lists are empty after a run.  The lists of the attacks never are; the list of a defence is empty exactly if
everything has not been taken for possible for the creature since the last reset, it has been met since then, and no
attack that met it allows any investment; and the hit points are empty only if a defence is. -/
theorem list_empty_iff_unexplained {calls : List Call} (p : String)
    (hrun : (run rules calls).apply Tracker.start = (.ok (), t)) :
    ((∃ stat ∈ ["atk", "spa", "def", "spd", "hp"], (t.knowledge p).get? stat = some []) ↔
      ∃ xs, exposure p Tracker.start.mine (some []) calls = some xs ∧ ∃ physical, Unexplained rules physical xs) ∧
    (∀ stat ∈ ["atk", "spa"], (t.knowledge p).get? stat ≠ some []) ∧
    ∀ physical, (t.knowledge p).get? (defenceName physical) = some [] ↔
      ∃ xs, exposure p Tracker.start.mine (some []) calls = some xs ∧ Unexplained rules physical xs := by
  have hstart : Ledger rules p (some []) Tracker.start := Ledger.of_unknown fun _ => rfl
  have h := hstart.run hrun
  refine ⟨?_, h.attack, h.empty⟩
  have hdefence : (∃ physical, (t.knowledge p).get? (defenceName physical) = some []) ↔
      ∃ xs, exposure p Tracker.start.mine (some []) calls = some xs ∧ ∃ physical, Unexplained rules physical xs := by
    simp only [h.empty]
    constructor
    · rintro ⟨physical, xs, hxs, hunexplained⟩
      exact ⟨xs, hxs, physical, hunexplained⟩
    · rintro ⟨xs, hxs, physical, hunexplained⟩
      exact ⟨physical, xs, hxs, hunexplained⟩
  rw [← hdefence]
  constructor
  · rintro ⟨stat, hstat, hempty⟩
    simp only [List.mem_cons, List.not_mem_nil, or_false] at hstat
    rcases hstat with rfl | rfl | rfl | rfl | rfl
    · exact absurd hempty (h.attack "atk" (by decide))
    · exact absurd hempty (h.attack "spa" (by decide))
    · exact ⟨true, hempty⟩
    · exact ⟨false, hempty⟩
    · exact h.points hempty
  · rintro ⟨physical, hempty⟩
    exact ⟨defenceName physical, by cases physical <;> decide, hempty⟩

namespace Sample

/-- A physical attack that does more damage than any investment allows. -/
def tooHard : List Call :=
  [.update position (.record [("active", foe)]), .learn (.text "me") (.list [mine true 99 false])]

/-- The same with a special attack afterwards. -/
def thenSpecial : List Call := tooHard ++ [.learn (.text "me") (.list [mine false 24 false])]

/-- What is known after both attacks. -/
def afterSpecial : Tracker := ((run Rules.standard thenSpecial).apply Tracker.start).2

end Sample

/-- The special attack is explained, the physical one is not. -/
theorem sample_list_empty_iff_unexplained :
    (run Rules.standard Sample.thenSpecial).apply Tracker.start = (.ok (), Sample.afterSpecial) ∧
    (Sample.afterSpecial.knowledge "floatzel").get? "def" = some [] ∧
    ¬(Sample.afterSpecial.knowledge "floatzel").get? "spd" = some [] ∧
    (∃ xs, exposure "floatzel" Tracker.start.mine (some []) Sample.thenSpecial = some xs ∧
      ∃ physical, Unexplained Rules.standard physical xs) ∧
    ((∃ stat ∈ ["atk", "spa", "def", "spd", "hp"],
        (Sample.afterSpecial.knowledge "floatzel").get? stat = some []) ↔
      ∃ xs, exposure "floatzel" Tracker.start.mine (some []) Sample.thenSpecial = some xs ∧
        ∃ physical, Unexplained Rules.standard physical xs) := by
  have hevaluated : ((run Rules.standard Sample.thenSpecial).apply Tracker.start).1.isOk = true ∧
      ((Sample.afterSpecial.knowledge "floatzel").get? "def").map List.isEmpty = some true ∧
      ((Sample.afterSpecial.knowledge "floatzel").get? "spd").map List.isEmpty = some false := by decide +kernel
  obtain ⟨hok, hdef, hspd⟩ := hevaluated
  have hrun : (run Rules.standard Sample.thenSpecial).apply Tracker.start = (.ok (), Sample.afterSpecial) :=
    Change.apply_of_isOk hok
  obtain ⟨hiff, -, -⟩ := list_empty_iff_unexplained "floatzel" hrun
  have hempty : (Sample.afterSpecial.knowledge "floatzel").get? "def" = some [] := by simpa using hdef
  refine ⟨hrun, hempty, fun hno => ?_, hiff.1 ⟨"def", by decide, hempty⟩, hiff⟩
  rw [hno] at hspd
  cases hspd

/-- After one attack that no investment explains, the lists of the defence and of the hit points are empty. -/
theorem defence_and_points_emptied :
    ((run Rules.standard Sample.tooHard).apply Tracker.start).1 = .ok () ∧
    (((run Rules.standard Sample.tooHard).apply Tracker.start).2.knowledge "floatzel").get? "def" = some [] ∧
    (((run Rules.standard Sample.tooHard).apply Tracker.start).2.knowledge "floatzel").get? "hp" = some [] := by
  have hevaluated : ((run Rules.standard Sample.tooHard).apply Tracker.start).1.isOk = true ∧
      ((((run Rules.standard Sample.tooHard).apply Tracker.start).2.knowledge "floatzel").get? "def").map
        List.isEmpty = some true ∧
      ((((run Rules.standard Sample.tooHard).apply Tracker.start).2.knowledge "floatzel").get? "hp").map
        List.isEmpty = some true := by decide +kernel
  obtain ⟨hok, hdef, hpoints⟩ := hevaluated
  rw [Change.apply_of_isOk hok]
  exact ⟨rfl, by simpa using hdef, by simpa using hpoints⟩

end Docsmith.Battle
