import Docsmith.Proofs.Battle.Turn

/-!
# The true investment

If the damage of every strike lies in the range of the true investment, the inference never rules that investment out:
each step keeps the true entry in the lists that it touches (`Truth.Possible`), so every list that is known contains it,
whatever calls were made and in whichever order creatures were seen (`truth_never_ruled_out`).
-/

namespace Docsmith.Battle

/-! ### Entries -/

theorem Investment.ofWay_same (v w : Bool × Bool) : (ofWay v).same (ofWay w) = decide (v = w) := by
  obtain ⟨a, b⟩ := v
  obtain ⟨c, d⟩ := w
  revert a b c d
  decide

theorem Investment.ofPoints_same (v w : Bool) : (ofPoints v).same (ofPoints w) = decide (v = w) := by
  revert v w
  decide

theorem Investment.ofWay_mem_all (w : Bool × Bool) : ofWay w ∈ all := by
  obtain ⟨a, b⟩ := w
  cases a <;> cases b <;> simp [all, ways, ofWay]

theorem Investment.ofPoints_mem_allPoints (b : Bool) : ofPoints b ∈ allPoints := by
  cases b <;> simp [allPoints, ofPoints]

namespace Tracker

private theorem mem_orAll {vs all : List Value} {v : Value} (h : v ∈ vs) : v ∈ orAll vs all := by
  unfold orAll
  rw [List.isEmpty_eq_false_iff_exists_mem.2 ⟨v, h⟩]
  exact h

theorem orAll_of_mem {vs all : List Value} {v : Value} (h : v ∈ vs) : orAll vs all = vs := by
  unfold orAll
  rw [List.isEmpty_eq_false_iff_exists_mem.2 ⟨v, h⟩]
  rfl

/-- An entry that was known before and is found again is kept. -/
theorem mem_kept {before found : List Value} {v : Value} (hsame : v.same v = true) (hb : v ∈ before) (hf : v ∈ found) :
    v ∈ kept before found :=
  List.mem_filter.2 ⟨hf, List.any_eq_true.2 ⟨v, hb, hsame⟩⟩

end Tracker

/-! ### The true investment -/

/-- What an opponent has really put into the stats of a creature. -/
structure Truth where
  attack : Bool × Bool
  specialAttack : Bool × Bool
  defence : Bool × Bool
  specialDefence : Bool × Bool
  points : Bool

namespace Truth

/-- The entry of a stat. -/
def entry (truth : Truth) : String → Option Value
  | "atk" => some (Investment.ofWay truth.attack)
  | "spa" => some (Investment.ofWay truth.specialAttack)
  | "def" => some (Investment.ofWay truth.defence)
  | "spd" => some (Investment.ofWay truth.specialDefence)
  | "hp" => some (Investment.ofPoints truth.points)
  | _ => none

/-- The defence that a strike meets, and the hit points. -/
def against (truth : Truth) (s : Strike) : Bool × Bool × Bool :=
  let way := if s.isPhysical then truth.defence else truth.specialDefence
  (way.1, way.2, truth.points)

/-- The attack that a strike is made with. -/
def behind (truth : Truth) (s : Strike) : Bool × Bool := if s.isPhysical then truth.attack else truth.specialAttack

/-- The damage of a strike on or from a creature lies in the range of the true investment. -/
def Explains (truth : Truth) (rules : Rules) (p : String) (s : Strike) : Prop :=
  (s.landsOn p = true → truth.against s ∈ s.defences rules) ∧
  (s.comesFrom p = true → truth.behind s ∈ s.attacks rules)

/-- Every list that is known of a creature contains the true entry. -/
def Possible (truth : Truth) (p : String) (t : Tracker) : Prop :=
  ∀ stat v vs, truth.entry stat = some v → (t.knowledge p).get? stat = some vs → v ∈ vs

instance (truth : Truth) (rules : Rules) (p : String) (s : Strike) : Decidable (truth.Explains rules p s) :=
  inferInstanceAs (Decidable (_ ∧ _))

variable {truth : Truth} {rules : Rules} {p : String} {t t' : Tracker} {s : Strike}

/-- The entries of the hit points are of another kind than those of the other stats. -/
private theorem entry_cases {stat : String} {v : Value} (h : truth.entry stat = some v) :
    (stat ∈ ["atk", "def", "spa", "spd"] ∧ ∃ way, v = Investment.ofWay way) ∨
      (stat = "hp" ∧ ∃ full, v = Investment.ofPoints full) := by
  unfold entry at h
  split at h <;> cases h
  case h_5 => exact .inr ⟨rfl, _, rfl⟩
  all_goals exact .inl ⟨by decide, _, rfl⟩

private theorem entry_same {stat : String} {v : Value} (h : truth.entry stat = some v) : v.same v = true := by
  rcases entry_cases h with ⟨-, way, rfl⟩ | ⟨-, full, rfl⟩
  · simp [Investment.ofWay_same]
  · simp [Investment.ofPoints_same]

private theorem entry_defenceStat (truth : Truth) (s : Strike) :
    truth.entry s.defenceStat = some (Investment.ofWay ((truth.against s).1, (truth.against s).2.1)) := by
  unfold Strike.defenceStat defenceName against
  split <;> rfl

private theorem entry_attackStat (truth : Truth) (s : Strike) :
    truth.entry s.attackStat = some (Investment.ofWay (truth.behind s)) := by
  unfold Strike.attackStat behind
  split <;> rfl

/-- Only what is known of the stats that have an entry counts. -/
private theorem Possible.congr (h : truth.Possible p t)
    (hsame : ∀ stat, stat ≠ "spe" → (t'.knowledge p).get? stat = (t.knowledge p).get? stat) : truth.Possible p t' := by
  intro stat v vs hv hvs
  rw [hsame stat (by rintro rfl; cases hv)] at hvs
  exact h stat v vs hv hvs

/-- What is known and not empty contains the true entry. -/
private theorem Possible.mem_possible (h : truth.Possible p t) {stat : String} {v : Value}
    (hv : truth.entry stat = some v) (hne : t.possible p stat ≠ []) : v ∈ t.possible p stat := by
  unfold Tracker.possible at hne ⊢
  rcases hget : (t.knowledge p).get? stat with _ | vs
  · rw [hget] at hne
    exact absurd rfl hne
  · exact h stat v vs hv hget

private theorem Possible.defenceStep (h : truth.Possible p t) (hs : truth.against s ∈ s.defences rules)
    (hstep : Tracker.DefenceStep p s.defenceStat (s.defences rules) t t') : truth.Possible p t' := by
  intro stat v vs hv hvs
  have hway := List.mem_map_of_mem (f := fun w => Investment.ofWay (w.1, w.2.1)) hs
  have hpoints := List.mem_map_of_mem (f := fun w => Investment.ofPoints w.2.2) hs
  by_cases hstat : stat = s.defenceStat
  · subst hstat
    rw [entry_defenceStat, Option.some.injEq] at hv
    subst hv
    by_cases hknown : t.possible p s.defenceStat = []
    · rw [(hstep.first hknown).1, Option.some.injEq] at hvs
      rw [← hvs]
      exact hway
    · rw [(hstep.again hknown).1, Option.some.injEq] at hvs
      rw [← hvs]
      have hbefore := h.mem_possible (truth.entry_defenceStat s) hknown
      exact Tracker.mem_orAll (Tracker.mem_kept (entry_same (truth.entry_defenceStat s)) hbefore hway)
  by_cases hhp : stat = "hp"
  · subst hhp
    cases hv
    by_cases hknown : t.possible p s.defenceStat = []
    · -- the entries found are at the end of the list, whether it was forgotten or not
      rw [(hstep.first hknown).2] at hvs
      split at hvs
      · obtain ⟨before, -, rfl⟩ := Option.map_eq_some_iff.1 hvs
        exact List.mem_append_right _ hpoints
      · cases hvs
        exact hpoints
    · rw [(hstep.again hknown).2, Option.some.injEq] at hvs
      rw [← hvs]
      by_cases hforgotten : t.possible p "hp" = []
      · rw [hforgotten]
        have hnone : Tracker.kept [] ((s.defences rules).map fun w => Investment.ofPoints w.2.2) = [] := by
          simp [Tracker.kept]
        rw [hnone]
        exact Investment.ofPoints_mem_allPoints truth.points
      · have hentry : truth.entry "hp" = some (Investment.ofPoints truth.points) := rfl
        exact Tracker.mem_orAll (Tracker.mem_kept (entry_same hentry) (h.mem_possible hentry hforgotten) hpoints)
  · rw [hstep.only.rest stat (by simp [hstat, hhp])] at hvs
    exact h stat v vs hv hvs

private theorem Possible.attackStep (h : truth.Possible p t) (hs : truth.behind s ∈ s.attacks rules)
    (hstep : Tracker.AttackStep p s.attackStat (s.attacks rules) t t') : truth.Possible p t' := by
  intro stat v vs hv hvs
  have hway := List.mem_map_of_mem (f := Investment.ofWay) hs
  by_cases hstat : stat = s.attackStat
  · subst hstat
    rw [entry_attackStat, Option.some.injEq] at hv
    subst hv
    by_cases hknown : t.possible p s.attackStat = []
    · rw [hstep.first hknown, Option.some.injEq] at hvs
      rw [← hvs]
      exact Tracker.mem_orAll hway
    · rw [hstep.again hknown, Option.some.injEq] at hvs
      rw [← hvs]
      have hbefore := h.mem_possible (truth.entry_attackStat s) hknown
      exact Tracker.mem_orAll (Tracker.mem_kept (entry_same (truth.entry_attackStat s)) hbefore hway)
  · rw [hstep.only.rest stat (by simp [hstat])] at hvs
    exact h stat v vs hv hvs

private theorem possible_of_open (h : t.Open p) : truth.Possible p t := by
  intro stat v vs hv hvs
  rcases entry_cases hv with ⟨hstat, way, rfl⟩ | ⟨rfl, full, rfl⟩
  · cases (h.stat stat hstat).symm.trans hvs
    exact Investment.ofWay_mem_all way
  · cases h.points.symm.trans hvs
    exact Investment.ofPoints_mem_allPoints full

/-- A strike that the true investment explains does not rule it out. -/
private theorem Possible.strike {me event : Value} (h : truth.Possible p t)
    (hs : truth.Explains rules p ⟨t.mine, me, event⟩)
    (hlearn : (Tracker.learnEvent rules me event).apply t = (.ok (), t')) : truth.Possible p t' := by
  rcases Tracker.learnEvent_cases hlearn with ⟨q, hq, hstep⟩ | ⟨q, hq, hstep⟩ | ⟨-, -, hsame⟩
  · by_cases hpq : p = q
    · subst hpq
      exact h.defenceStep (hs.1 hq) hstep
    · exact h.congr fun stat _ => by rw [hstep.only.knowledge_of_ne hpq]
  · by_cases hpq : p = q
    · subst hpq
      exact h.attackStep (hs.2 hq) hstep
    · exact h.congr fun stat _ => by rw [hstep.only.knowledge_of_ne hpq]
  · exact h.congr fun stat _ => by rw [Tracker.knowledge, Tracker.knowledge, hsame]

/-- Calls that report only explained strikes do not rule the true investment out. -/
private theorem Possible.call {call : Call} (h : truth.Possible p t)
    (hs : ∀ s ∈ call.strikes t.mine, truth.Explains rules p s)
    (hcall : (call.perform rules).apply t = (.ok (), t')) : truth.Possible p t' := by
  cases call with
  | reset =>
    cases hcall
    intro stat v vs _ hvs
    cases hvs
  | update mine theirs =>
    cases hcall
    exact h
  | initialise team active =>
    rcases ((Tracker.initialise_ok hcall).2 p).1 with hopen | hsame
    · exact possible_of_open hopen
    · exact h.congr fun stat _ => by rw [hsame]
  | learn me turn =>
    -- the invariant speaks of the strikes seen so far in the turn
    have hP := Tracker.learnTurn_induction
      (P := fun seen u => (∀ s ∈ seen, truth.Explains rules p s) → truth.Possible p u)
      (fun hP hlearn hseen => (hP fun s hs => hseen s (by simp [hs])).strike (hseen _ (by simp)) hlearn)
      (fun hP hspeed hseen => (hP hseen).congr fun stat hstat => Tracker.get?_of_besidesSpeed hspeed p hstat)
      [] (fun _ => h) hcall
    exact hP.1 hs

end Truth

private theorem run_append {rules : Rules} {before after : List Call} {t t' : Tracker} :
    (run rules (before ++ after)).apply t = (.ok (), t') ↔
      ∃ t₁, (run rules before).apply t = (.ok (), t₁) ∧ (run rules after).apply t₁ = (.ok (), t') := by
  induction before generalizing t with
  | nil => simp [run]
  | cons call before ih =>
    simp only [List.cons_append, run, Change.bind_eq_ok, ih]
    constructor
    · rintro ⟨_, t₁, hcall, t₂, hbefore, hafter⟩
      exact ⟨t₂, ⟨(), t₁, hcall, hbefore⟩, hafter⟩
    · rintro ⟨t₂, ⟨_, t₁, hcall, hbefore⟩, hafter⟩
      exact ⟨(), t₁, hcall, t₂, hbefore, hafter⟩

private theorem mem_strikes_append (mine : Value) (before after : List Call) :
    ∀ s ∈ strikes mine before, s ∈ strikes mine (before ++ after) := by
  induction before generalizing mine with
  | nil => simp [strikes]
  | cons call before ih =>
    intro s hs
    rw [strikes, List.mem_append] at hs
    rw [List.cons_append, strikes, List.mem_append]
    exact hs.imp_right (ih _ s)

/-- The true investment is never ruled out.  In a run in which it explains every strike on a creature and every strike
from it, each list that is known of the creature contains the true entry after every call. -/
theorem truth_never_ruled_out {rules : Rules} {p : String} {truth : Truth} {calls : List Call} {t : Tracker}
    (hrun : (run rules calls).apply Tracker.start = (.ok (), t))
    (htrue : ∀ s ∈ strikes Tracker.start.mine calls, truth.Explains rules p s)
    {before after : List Call} (hcalls : calls = before ++ after) :
    ∃ t', (run rules before).apply Tracker.start = (.ok (), t') ∧
      ∀ stat v vs, truth.entry stat = some v → (t'.knowledge p).get? stat = some vs → v ∈ vs := by
  subst hcalls
  obtain ⟨t', hbefore, -⟩ := run_append.1 hrun
  refine ⟨t', hbefore, ?_⟩
  have hstart : truth.Possible p Tracker.start := by
    intro stat v vs _ hvs
    cases hvs
  have hP := run_induction (P := fun seen u => (∀ s ∈ seen, truth.Explains rules p s) → truth.Possible p u)
    (fun call _ _ _ _ hP hcall hseen =>
      (hP fun s hs => hseen s (by simp [hs])).call (fun s hs => hseen s (by simp [hs])) hcall)
    [] (fun _ => hstart) hbefore
  exact hP fun s hs => htrue s (mem_strikes_append _ before after s hs)

/-- An investment that explains the sample battle. -/
def Sample.truth : Truth := ⟨(false, true), (false, false), (true, false), (true, false), false⟩

/-- The sample battle, seen without a start that takes everything for possible. -/
theorem sample_truth_never_ruled_out :
    ((run Rules.standard Sample.turns).apply Tracker.start).1.isOk = true ∧
    (∀ s ∈ strikes Tracker.start.mine Sample.turns, Sample.truth.Explains Rules.standard "floatzel" s) ∧
    ∃ t', (run Rules.standard (Sample.turns.take 2)).apply Tracker.start = (.ok (), t') ∧
      ∀ stat v vs, Sample.truth.entry stat = some v → (t'.knowledge "floatzel").get? stat = some vs → v ∈ vs := by
  have hok : ((run Rules.standard Sample.turns).apply Tracker.start).1.isOk = true := by decide +kernel
  have htrue : ∀ s ∈ strikes Tracker.start.mine Sample.turns,
      Sample.truth.Explains Rules.standard "floatzel" s := by decide +kernel
  exact ⟨hok, htrue, truth_never_ruled_out (Change.apply_of_isOk hok) htrue (List.take_append_drop 2 _).symm⟩

end Docsmith.Battle
