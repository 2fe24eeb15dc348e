import Docsmith.Proofs.Battle.Exactness
import Docsmith.Proofs.Battle.Reachable

/-!
# Narrowing

One more attack cuts a list of entries down to those that it allows, or makes all entries possible again if it allows
none of them (`Narrowed`).  So it is with the lists of the attacks and of the defences (`stats_narrow_or_reopen`).  The
list of the hit points is shared by the two defences: it narrows in the same way, except that the first attack that
meets a defence forgets what was known of the hit points (`points_narrow_unless_first`).
-/

namespace Docsmith.Battle

variable {rules : Rules} {s : Strike} {o : Outcome Unit} {t t' : Tracker} {p q stat : String} {vs : List Value}

/-! ### Strikes and the stats that they are about -/

theorem Strike.isMine_of_landsOn (h : s.landsOn p = true) : s.isMine = true := by
  unfold landsOn at h
  simp only [Bool.and_eq_true] at h
  exact h.1.2

theorem Strike.hits_of_landsOn (h : s.landsOn p = true) : s.hits = true := by
  unfold landsOn at h
  simp only [Bool.and_eq_true] at h
  exact h.1.1

private theorem Strike.not_isMine_of_comesFrom (h : s.comesFrom p = true) : s.isMine = false := by
  unfold comesFrom at h
  simp only [Bool.and_eq_true, Bool.not_eq_true'] at h
  exact h.1.2

theorem Strike.not_comesFrom_of_landsOn (h : s.landsOn p = true) : s.comesFrom q = false := by
  rw [← Bool.not_eq_true]
  intro hq
  exact absurd ((isMine_of_landsOn h).symm.trans (not_isMine_of_comesFrom hq)) (by decide)

private theorem Strike.comesFrom_unique (hp : s.comesFrom p = true) (hq : s.comesFrom q = true) : p = q := by
  unfold Strike.comesFrom at hp hq
  simp only [Bool.and_eq_true] at hp hq
  rcases hatk : s.event.field "atk_poke" with _ | v
  · simp [hatk, bind, Except.bind, Outcome.holds] at hp
  · cases v <;> simp_all [bind, Except.bind, Outcome.holds, Value.isText]

/-- The entries that a strike allows for a stat of a creature, if it is about that stat. -/
def Strike.found (rules : Rules) (p stat : String) (s : Strike) : Option (List Value) :=
  if s.landsOn p && stat == s.defenceStat then some ((s.defences rules).map fun w => Investment.ofWay (w.1, w.2.1))
  else if s.comesFrom p && stat == s.attackStat then some ((s.attacks rules).map Investment.ofWay)
  else none

/-- A strike allows an entry for a stat of a creature; it allows all entries if it is about something else. -/
def Strike.Admits (rules : Rules) (p stat : String) (s : Strike) (v : Value) : Prop :=
  ∀ found, s.found rules p stat = some found → v ∈ found

private theorem Strike.admits_eq {found : List Value} (h : s.found rules p stat = some found) :
    s.Admits rules p stat = fun v => v ∈ found := by
  funext v
  simp [Admits, h]

private theorem Strike.found_defence (h : s.landsOn p = true) :
    s.found rules p s.defenceStat = some ((s.defences rules).map fun w => Investment.ofWay (w.1, w.2.1)) := by
  simp [found, h]

private theorem Strike.found_attack (h : s.comesFrom p = true) :
    s.found rules p s.attackStat = some ((s.attacks rules).map Investment.ofWay) := by
  have hmiss : s.landsOn p = false := by
    rw [← Bool.not_eq_true]
    intro hp
    rw [not_comesFrom_of_landsOn hp] at h
    cases h
  simp [found, h, hmiss]

private theorem Strike.admits_of_quiet (h : s.hits = false) (v : Value) : s.Admits rules p stat v := by
  simp [Admits, found, landsOn, comesFrom, h]

/-- A strike on a creature is about one defence of that creature. -/
private theorem Strike.admits_of_landsOn (h : s.landsOn q = true) (hne : ¬(p = q ∧ stat = s.defenceStat)) (v : Value) :
    s.Admits rules p stat v := by
  intro found hfound
  unfold Strike.found at hfound
  split at hfound
  next hp =>
    simp only [Bool.and_eq_true, beq_iff_eq] at hp
    exact absurd ⟨landsOn_unique hp.1 h, hp.2⟩ hne
  next =>
    split at hfound
    next hp => simp [not_comesFrom_of_landsOn h] at hp
    next => cases hfound

/-- A strike of a creature is about one attack of that creature. -/
private theorem Strike.admits_of_comesFrom (h : s.comesFrom q = true) (hne : ¬(p = q ∧ stat = s.attackStat))
    (v : Value) :
    s.Admits rules p stat v := by
  intro found hfound
  unfold Strike.found at hfound
  split at hfound
  next hp =>
    simp only [Bool.and_eq_true] at hp
    rw [not_comesFrom_of_landsOn hp.1] at h
    cases h
  next =>
    split at hfound
    next hp =>
      simp only [Bool.and_eq_true, beq_iff_eq] at hp
      exact absurd ⟨comesFrom_unique hp.1 h, hp.2⟩ hne
    next => cases hfound

/-! ### Lists that narrow -/

/-- The entries are those that fit among the ones before, or all of them if none of the ones before fits. -/
def Narrowed (fits : Value → Prop) (all before after : List Value) : Prop :=
  (∃ w ∈ before, fits w) ∧ (∀ v, v ∈ after ↔ v ∈ before ∧ fits v) ∨ (∀ w ∈ before, ¬fits w) ∧ after = all

private theorem narrowed_self {fits : Value → Prop} {all : List Value} (hne : vs ≠ []) (hfits : ∀ v, fits v) :
    Narrowed fits all vs vs := by
  obtain ⟨w, hw⟩ := List.exists_mem_of_ne_nil vs hne
  exact .inl ⟨⟨w, hw, hfits w⟩, fun v => by simp [hfits v]⟩

private theorem narrowed_kept {before found all : List Value}
    (hsame : ∀ w ∈ before, ∀ v ∈ found, w.same v = true ↔ w = v) :
    Narrowed (· ∈ found) all before (Tracker.orAll (Tracker.kept before found) all) := by
  have hkept : ∀ v, v ∈ Tracker.kept before found ↔ v ∈ before ∧ v ∈ found := by
    intro v
    rw [Tracker.kept, List.mem_filter, List.any_eq_true]
    constructor
    · rintro ⟨hv, w, hw, hwv⟩
      exact ⟨((hsame w hw v hv).1 hwv) ▸ hw, hv⟩
    · rintro ⟨hb, hv⟩
      exact ⟨hv, v, hb, (hsame v hb v hv).2 rfl⟩
  by_cases hsome : ∃ w ∈ before, w ∈ found
  · obtain ⟨w, hw, hwf⟩ := hsome
    left
    rw [Tracker.orAll_of_mem ((hkept w).2 ⟨hw, hwf⟩)]
    exact ⟨⟨w, hw, hwf⟩, hkept⟩
  · right
    have hnone : ∀ w ∈ before, w ∉ found := fun w hw hwf => hsome ⟨w, hw, hwf⟩
    have hnil : Tracker.kept before found = [] := by
      rw [List.eq_nil_iff_forall_not_mem]
      intro v hv
      exact hnone v ((hkept v).1 hv).1 ((hkept v).1 hv).2
    rw [hnil]
    exact ⟨hnone, rfl⟩

private theorem Narrowed.subset_or_eq {fits : Value → Prop} {all before after : List Value}
    (h : Narrowed fits all before after) : (∀ v ∈ after, v ∈ before) ∨ after = all := by
  rcases h with ⟨-, hafter⟩ | ⟨-, hall⟩
  · exact .inl fun v hv => ((hafter v).1 hv).1
  · exact .inr hall

private theorem Investment.mem_all_iff (v : Value) : v ∈ all ↔ ∃ way, v = ofWay way := by
  constructor
  · exact Tracker.exists_of_mem_all
  · rintro ⟨way, rfl⟩
    exact ofWay_mem_all way

private theorem Investment.mem_allPoints_iff (v : Value) : v ∈ allPoints ↔ ∃ full, v = ofPoints full := by
  constructor
  · exact Tracker.exists_of_mem_allPoints
  · rintro ⟨full, rfl⟩
    exact ofPoints_mem_allPoints full

private theorem Investment.ofWay_same_iff (v w : Bool × Bool) :
    (ofWay v).same (ofWay w) = true ↔ ofWay v = ofWay w := by
  constructor
  · intro hsame
    rw [ofWay_same, decide_eq_true_iff] at hsame
    rw [hsame]
  · intro heq
    rw [heq, ofWay_same]
    exact decide_eq_true rfl

private theorem Investment.ofPoints_same_iff (v w : Bool) :
    (ofPoints v).same (ofPoints w) = true ↔ ofPoints v = ofPoints w := by
  constructor
  · intro hsame
    rw [ofPoints_same, decide_eq_true_iff] at hsame
    rw [hsame]
  · intro heq
    rw [heq, ofPoints_same]
    exact decide_eq_true rfl

namespace Tracker

theorem possible_of_get? (h : (t.knowledge p).get? stat = some vs) : t.possible p stat = vs := by
  rw [possible, h, Option.getD_some]

private theorem Sound.same_iff (h : t.Sound) (hstat : stat ∈ ["atk", "def", "spa", "spd"]) {found : List Value}
    (hfound : ∀ v ∈ found, ∃ way, v = Investment.ofWay way) :
    ∀ w ∈ t.possible p stat, ∀ v ∈ found, w.same v = true ↔ w = v := by
  intro w hw v hv
  obtain ⟨way, rfl⟩ := (h p).entry stat hstat w hw
  obtain ⟨way', rfl⟩ := hfound v hv
  exact Investment.ofWay_same_iff way way'

private theorem DefenceStep.narrowed (hsound : t.Sound) (hp : s.landsOn p = true)
    (hstep : DefenceStep p s.defenceStat (s.defences rules) t t') (hvs : (t.knowledge p).get? s.defenceStat = some vs)
    (hne : vs ≠ []) :
    ∃ vs', (t'.knowledge p).get? s.defenceStat = some vs' ∧
      Narrowed (s.Admits rules p s.defenceStat) Investment.all vs vs' := by
  have hsame := hsound.same_iff (p := p) s.defenceStat_mem
    (exists_of_mem_map_ofWay (fun w => (w.1, w.2.1)) (s.defences rules))
  have hagain := (hstep.again (by rwa [possible_of_get? hvs])).1
  rw [possible_of_get? hvs] at hsame hagain
  rw [Strike.admits_eq (Strike.found_defence hp)]
  exact ⟨_, hagain, narrowed_kept hsame⟩

private theorem AttackStep.narrowed (hsound : t.Sound) (hp : s.comesFrom p = true)
    (hstep : AttackStep p s.attackStat (s.attacks rules) t t') (hvs : (t.knowledge p).get? s.attackStat = some vs)
    (hne : vs ≠ []) :
    ∃ vs', (t'.knowledge p).get? s.attackStat = some vs' ∧
      Narrowed (s.Admits rules p s.attackStat) Investment.all vs vs' := by
  have hsame := hsound.same_iff (p := p) s.attackStat_mem (exists_of_mem_map_ofWay id (s.attacks rules))
  have hagain := hstep.again (by rwa [possible_of_get? hvs])
  rw [possible_of_get? hvs] at hsame hagain
  rw [Strike.admits_eq (Strike.found_attack hp)]
  exact ⟨_, hagain, narrowed_kept hsame⟩

/-- One attack narrows a list of an attack or of a defence, or breaks off and leaves it. -/
private theorem Effect.narrowed (hsound : t.Sound) (heffect : Effect rules s o t t')
    (hstat : stat ∈ ["atk", "def", "spa", "spd"]) (hvs : (t.knowledge p).get? stat = some vs) (hne : vs ≠ []) :
    ∃ vs', (t'.knowledge p).get? stat = some vs' ∧
      (Narrowed (s.Admits rules p stat) Investment.all vs vs' ∨ o ≠ .ok () ∧ vs' = vs) := by
  obtain ⟨hhp, hspe⟩ := ne_of_mem_stats hstat
  -- a stat that the attack is not about stays
  have hothers : ∀ {q stats}, ChangesOnly q stats t t' → ¬(p = q ∧ stat ∈ stats) →
      (t'.knowledge p).get? stat = some vs := by
    intro q stats honly hne
    by_cases hq : p = q
    · subst hq
      rw [honly.rest stat fun hmem => hne ⟨rfl, hmem⟩, hvs]
    · rw [honly.knowledge_of_ne hq, hvs]
  cases heffect with
  | same hquiet hsame =>
    refine ⟨vs, (hsame p stat hspe).trans hvs, ?_⟩
    by_cases ho : o = .ok ()
    · exact .inl (narrowed_self hne (Strike.admits_of_quiet (hquiet ho)))
    · exact .inr ⟨ho, rfl⟩
  | defence q hq hstep =>
    by_cases hp : p = q ∧ stat = s.defenceStat
    · obtain ⟨rfl, rfl⟩ := hp
      obtain ⟨vs', hvs', hnarrowed⟩ := hstep.narrowed hsound hq hvs hne
      exact ⟨vs', hvs', .inl hnarrowed⟩
    · exact ⟨vs, hothers hstep.only (by simpa [hhp] using hp),
        .inl (narrowed_self hne (Strike.admits_of_landsOn hq hp))⟩
  | attack q hq hstep =>
    by_cases hp : p = q ∧ stat = s.attackStat
    · obtain ⟨rfl, rfl⟩ := hp
      obtain ⟨vs', hvs', hnarrowed⟩ := hstep.narrowed hsound hq hvs hne
      exact ⟨vs', hvs', .inl hnarrowed⟩
    · exact ⟨vs, hothers hstep.only (by simpa using hp),
        .inl (narrowed_self hne (Strike.admits_of_comesFrom hq hp))⟩
  | defenceSetUp q hq hfault hsetUp =>
    refine ⟨vs, ?_, .inr ⟨hfault, rfl⟩⟩
    by_cases hp : p = q ∧ stat = s.defenceStat
    · obtain ⟨rfl, rfl⟩ := hp
      rw [hsetUp.now, possible_of_get? hvs]
    · exact hothers hsetUp.only (by simpa [hhp] using hp)
  | attackSetUp q hq hfault hsetUp =>
    refine ⟨vs, ?_, .inr ⟨hfault, rfl⟩⟩
    by_cases hp : p = q ∧ stat = s.attackStat
    · obtain ⟨rfl, rfl⟩ := hp
      rw [hsetUp.now, possible_of_get? hvs]
    · exact hothers hsetUp.only (by simpa using hp)

end Tracker

/-! ### Attacks and defences -/

/-- Attack and defence knowledge only narrows or is reset to everything.  Let a turn with one attack be learned from in
any tracker that calls can reach.  A list of an attack or of a defence that is not empty then has no new entries or
has all of them; and if the turn is learned from without a fault, the entries are those that the attack allows, or all
of them if it allows none. -/
theorem stats_narrow_or_reopen {me turn : Value} (ht : Reachable rules t) (hturn : strikesIn t.mine me turn = [s])
    (hcall : ((Call.learn me turn).perform rules).apply t = (o, t')) (hstat : stat ∈ ["atk", "def", "spa", "spd"])
    (hvs : (t.knowledge p).get? stat = some vs) (hne : vs ≠ []) :
    ∃ vs', (t'.knowledge p).get? stat = some vs' ∧
      ((∀ v ∈ vs', v ∈ vs) ∨ ∀ v, v ∈ vs' ↔ ∃ way, v = Investment.ofWay way) ∧
      (o = .ok () → Narrowed (s.Admits rules p stat) Investment.all vs vs') := by
  obtain ⟨o₁, t₁, heffect, hspeed, hok⟩ := Tracker.learn_single ht.sound.paired hturn hcall
  obtain ⟨vs', hvs', hnarrowed⟩ := heffect.narrowed ht.sound hstat hvs hne
  refine ⟨vs', (hspeed p stat (ne_of_mem_stats hstat).2).trans hvs', ?_, fun ho => ?_⟩
  · rcases hnarrowed with hnarrowed | ⟨-, rfl⟩
    · rcases hnarrowed.subset_or_eq with hsubset | rfl
      · exact .inl hsubset
      · exact .inr Investment.mem_all_iff
    · exact .inl fun v hv => hv
  · rcases hnarrowed with hnarrowed | ⟨hfault, -⟩
    · exact hnarrowed
    · exact absurd (hok ho) hfault

namespace Sample

/-- The tracker after the first turn of the sample battle. -/
def afterTurn : Tracker := ((run Rules.standard (turns.take 2)).apply Tracker.start).2

/-- Another physical attack of the player. -/
def hit : Value := mine true 44 false

/-- The attack as it is learned from. -/
def strike : Strike := ⟨afterTurn.mine, .text "me", (Tracker.reduceCritical.apply hit).2⟩

/-- The tracker that has learned from the attack. -/
def afterHit : Tracker := (((Call.learn (.text "me") (.list [hit])).perform Rules.standard).apply afterTurn).2

private theorem reachable_afterTurn : Reachable Rules.standard afterTurn := Reachable.start.run _

private theorem strikesIn_hit : strikesIn afterTurn.mine (.text "me") (.list [hit]) = [strike] := rfl

-- one evaluation for all, because the kernel plays the turns once
private theorem hit_evaluated :
    (((Call.learn (.text "me") (.list [hit])).perform Rules.standard).apply afterTurn).1.isOk = true ∧
    ((afterTurn.knowledge "floatzel").get? "def").map List.length = some 3 ∧
    ((afterHit.knowledge "floatzel").get? "def").map List.length = some 2 ∧
    ((afterTurn.knowledge "floatzel").get? "hp").map List.isEmpty = some false := by decide +kernel

private theorem learn_hit : ((Call.learn (.text "me") (.list [hit])).perform Rules.standard).apply afterTurn =
    (.ok (), afterHit) :=
  Change.apply_of_isOk hit_evaluated.1

end Sample

/-- Three investments in the defence are possible after the first turn of the sample battle, and two of them after
another attack. -/
theorem sample_stats_narrow_or_reopen :
    Reachable Rules.standard Sample.afterTurn ∧
    strikesIn Sample.afterTurn.mine (.text "me") (.list [Sample.hit]) = [Sample.strike] ∧
    ((Call.learn (.text "me") (.list [Sample.hit])).perform Rules.standard).apply Sample.afterTurn =
      (.ok (), Sample.afterHit) ∧
    ∃ vs vs', (Sample.afterTurn.knowledge "floatzel").get? "def" = some vs ∧ vs.length = 3 ∧
      (Sample.afterHit.knowledge "floatzel").get? "def" = some vs' ∧ vs'.length = 2 ∧
      ((∀ v ∈ vs', v ∈ vs) ∨ ∀ v, v ∈ vs' ↔ ∃ way, v = Investment.ofWay way) ∧
      Narrowed (Sample.strike.Admits Rules.standard "floatzel" "def") Investment.all vs vs' := by
  obtain ⟨-, hbefore, hafter, -⟩ := Sample.hit_evaluated
  obtain ⟨vs, hvs, hlength⟩ := Option.map_eq_some_iff.1 hbefore
  have hne : vs ≠ [] := by
    rintro rfl
    cases hlength
  obtain ⟨vs', hvs', hsubset, hnarrowed⟩ :=
    stats_narrow_or_reopen Sample.reachable_afterTurn Sample.strikesIn_hit Sample.learn_hit (by decide) hvs hne
  rw [hvs', Option.map_some, Option.some.injEq] at hafter
  exact ⟨Sample.reachable_afterTurn, Sample.strikesIn_hit, Sample.learn_hit, vs, vs', hvs, hlength, hvs', hafter,
    hsubset, hnarrowed rfl⟩

/-! ### Hit points -/

namespace Tracker

/-- A strike is the first on a creature that meets its defence, as far as the tracker knows. -/
def FirstOn (t : Tracker) (p : String) (s : Strike) : Prop :=
  s.landsOn p = true ∧ (t.knowledge p).get? s.defenceStat = none

/-- Adding to the hit points completes them or adds nothing, because there are two entries only. -/
private theorem append_points {found : List Value} (hne : vs ≠ [])
    (hvs : ∀ v ∈ vs, ∃ full, v = Investment.ofPoints full)
    (hfound : ∀ v ∈ found, ∃ full, v = Investment.ofPoints full) :
    (∀ v ∈ vs ++ found, v ∈ vs) ∨ ∀ v, v ∈ vs ++ found ↔ ∃ full, v = Investment.ofPoints full := by
  by_cases hsub : ∀ v ∈ found, v ∈ vs
  · left
    intro v hv
    exact (List.mem_append.1 hv).elim id (hsub v)
  · right
    simp only [Classical.not_forall] at hsub
    obtain ⟨v₁, hv₁, hnew⟩ := hsub
    obtain ⟨v₀, hv₀⟩ := List.exists_mem_of_ne_nil vs hne
    obtain ⟨full₀, rfl⟩ := hvs v₀ hv₀
    obtain ⟨full₁, rfl⟩ := hfound v₁ hv₁
    have hother : full₁ = !full₀ := by
      rw [Bool.eq_not]
      rintro rfl
      exact hnew hv₀
    intro v
    constructor
    · intro hv
      exact (List.mem_append.1 hv).elim (hvs v) (hfound v)
    · rintro ⟨full, rfl⟩
      by_cases hfull : full = full₀
      · rw [hfull]
        exact List.mem_append_left _ hv₀
      · rw [← Bool.eq_not.2 hfull] at hother
        rw [← hother]
        exact List.mem_append_right _ hv₁

private theorem DefenceStep.points_of_known {ways : List (Bool × Bool × Bool)} (hsound : t.Sound)
    (hstep : DefenceStep p stat ways t t') (hknown : (t.knowledge p).has stat = true)
    (hvs : (t.knowledge p).get? "hp" = some vs) (hne : vs ≠ []) :
    ∃ vs', (t'.knowledge p).get? "hp" = some vs' ∧
      ((∀ v ∈ vs', v ∈ vs) ∨ ∀ v, v ∈ vs' ↔ ∃ full, v = Investment.ofPoints full) := by
  have hpoints : ∀ v ∈ vs, ∃ full, v = Investment.ofPoints full := by
    rw [← possible_of_get? hvs]
    exact (hsound p).points
  have hfound := exists_of_mem_map_ofPoints (fun w => w.2.2) ways
  by_cases hempty : t.possible p stat = []
  · -- the defence is known but has no entries, so the new ones are added to the hit points
    have hfirst := (hstep.first hempty).2
    rw [if_pos hknown, hvs, Option.map_some] at hfirst
    exact ⟨_, hfirst, append_points hne hpoints hfound⟩
  · have hagain := (hstep.again hempty).2
    rw [possible_of_get? hvs] at hagain
    have hsame : ∀ w ∈ vs, ∀ v ∈ ways.map fun w => Investment.ofPoints w.2.2, w.same v = true ↔ w = v := by
      intro w hw v hv
      obtain ⟨full, rfl⟩ := hpoints w hw
      obtain ⟨full', rfl⟩ := hfound v hv
      exact Investment.ofPoints_same_iff full full'
    refine ⟨_, hagain, ?_⟩
    rcases (narrowed_kept hsame).subset_or_eq with hsubset | hall
    · exact .inl hsubset
    · rw [hall]
      exact .inr Investment.mem_allPoints_iff

private theorem Effect.points_of_not_first (hsound : t.Sound) (heffect : Effect rules s o t t') (hnot : ¬t.FirstOn p s)
    (hvs : (t.knowledge p).get? "hp" = some vs) (hne : vs ≠ []) :
    ∃ vs', (t'.knowledge p).get? "hp" = some vs' ∧
      ((∀ v ∈ vs', v ∈ vs) ∨ ∀ v, v ∈ vs' ↔ ∃ full, v = Investment.ofPoints full) := by
  have hstays : (t'.knowledge p).get? "hp" = (t.knowledge p).get? "hp" →
      ∃ vs', (t'.knowledge p).get? "hp" = some vs' ∧
        ((∀ v ∈ vs', v ∈ vs) ∨ ∀ v, v ∈ vs' ↔ ∃ full, v = Investment.ofPoints full) :=
    fun hsame => ⟨vs, hsame.trans hvs, .inl fun v hv => hv⟩
  have hknown : s.landsOn p = true → (t.knowledge p).has s.defenceStat = true := by
    intro hp
    rw [Fields.has, Option.isSome_iff_ne_none]
    exact fun hnone => hnot ⟨hp, hnone⟩
  cases heffect with
  | same hquiet hsame => exact hstays (hsame p "hp" (by decide))
  | defence q hq hstep =>
    by_cases hp : p = q
    · subst hp
      exact hstep.points_of_known hsound (hknown hq) hvs hne
    · exact hstays (by rw [hstep.only.knowledge_of_ne hp])
  | attack q hq hstep => exact hstays (hstep.only.get?_of_not_mem s.points_ne_attackStat p)
  | defenceSetUp q hq hfault hsetUp =>
    by_cases hp : p = q
    · subst hp
      exact hstays (by rw [hsetUp.points, if_pos (hknown hq)])
    · exact hstays (by rw [hsetUp.only.knowledge_of_ne hp])
  | attackSetUp q hq hfault hsetUp => exact hstays (hsetUp.only.get?_of_not_mem s.points_ne_attackStat p)

private theorem Effect.points_of_first (heffect : Effect rules s o t t') (hfirst : t.FirstOn p s)
    (hvs : (t.knowledge p).get? "hp" = some vs) :
    ∃ vs', (t'.knowledge p).get? "hp" = some vs' ∧
      ((∀ v, v ∈ vs' ↔ ∃ w ∈ s.defences rules, v = Investment.ofPoints w.2.2) ∨ o ≠ .ok () ∧ ∀ v ∈ vs', v ∈ vs) := by
  obtain ⟨hp, hnone⟩ := hfirst
  have hunknown : (t.knowledge p).has s.defenceStat = false := by rw [Fields.has, hnone, Option.isSome_none]
  cases heffect with
  | same hquiet hsame =>
    refine ⟨vs, (hsame p "hp" (by decide)).trans hvs, .inr ⟨fun ho => ?_, fun v hv => hv⟩⟩
    exact absurd ((Strike.hits_of_landsOn hp).symm.trans (hquiet ho)) (by decide)
  | defence q hq hstep =>
    obtain rfl := Strike.landsOn_unique hp hq
    have hpoints := (hstep.first (by rw [possible, hnone, Option.getD_none])).2
    rw [hunknown, if_neg Bool.false_ne_true] at hpoints
    refine ⟨_, hpoints, .inl fun v => ?_⟩
    rw [List.mem_map]
    simp only [eq_comm]
  | attack q hq hstep => simp [Strike.not_comesFrom_of_landsOn hp] at hq
  | defenceSetUp q hq hfault hsetUp =>
    obtain rfl := Strike.landsOn_unique hp hq
    have hpoints := hsetUp.points
    rw [hunknown, if_neg Bool.false_ne_true] at hpoints
    exact ⟨[], hpoints, .inr ⟨hfault, fun v hv => by cases hv⟩⟩
  | attackSetUp q hq hfault hsetUp => simp [Strike.not_comesFrom_of_landsOn hp] at hq

end Tracker

/-- What is known of the hit points narrows or is reset to everything, unless an attack is the first that meets a
defence: then it is forgotten, and only what that attack allows is known. -/
theorem points_narrow_unless_first {me turn : Value} (ht : Reachable rules t) (hturn : strikesIn t.mine me turn = [s])
    (hcall : ((Call.learn me turn).perform rules).apply t = (o, t')) (hvs : (t.knowledge p).get? "hp" = some vs)
    (hne : vs ≠ []) :
    ∃ vs', (t'.knowledge p).get? "hp" = some vs' ∧
      (¬t.FirstOn p s → (∀ v ∈ vs', v ∈ vs) ∨ ∀ v, v ∈ vs' ↔ ∃ full, v = Investment.ofPoints full) ∧
      (t.FirstOn p s → (∀ v, v ∈ vs' ↔ ∃ w ∈ s.defences rules, v = Investment.ofPoints w.2.2) ∨
        o ≠ .ok () ∧ ∀ v ∈ vs', v ∈ vs) := by
  obtain ⟨o₁, t₁, heffect, hspeed, hok⟩ := Tracker.learn_single ht.sound.paired hturn hcall
  have hafter := hspeed p "hp" (by decide)
  by_cases hfirst : t.FirstOn p s
  · obtain ⟨vs', hvs', hpoints⟩ := heffect.points_of_first hfirst hvs
    refine ⟨vs', hafter.trans hvs', fun hnot => absurd hfirst hnot, fun _ => ?_⟩
    exact hpoints.imp_right fun hbroken => ⟨fun ho => hbroken.1 (hok ho), hbroken.2⟩
  · obtain ⟨vs', hvs', hpoints⟩ := heffect.points_of_not_first ht.sound hfirst hvs hne
    exact ⟨vs', hafter.trans hvs', fun _ => hpoints, fun h => absurd h hfirst⟩

/-- The other attack is not the first that meets the defence. -/
theorem sample_points_narrow_unless_first :
    Reachable Rules.standard Sample.afterTurn ∧
    strikesIn Sample.afterTurn.mine (.text "me") (.list [Sample.hit]) = [Sample.strike] ∧
    ((Call.learn (.text "me") (.list [Sample.hit])).perform Rules.standard).apply Sample.afterTurn =
      (.ok (), Sample.afterHit) ∧
    ∃ vs vs', (Sample.afterTurn.knowledge "floatzel").get? "hp" = some vs ∧ vs ≠ [] ∧
      (Sample.afterHit.knowledge "floatzel").get? "hp" = some vs' ∧
      ¬Sample.afterTurn.FirstOn "floatzel" Sample.strike ∧
      ((∀ v ∈ vs', v ∈ vs) ∨ ∀ v, v ∈ vs' ↔ ∃ full, v = Investment.ofPoints full) := by
  obtain ⟨-, hdefence, -, hpoints⟩ := Sample.hit_evaluated
  obtain ⟨vs, hvs, hempty⟩ := Option.map_eq_some_iff.1 hpoints
  have hne : vs ≠ [] := by
    rintro rfl
    cases hempty
  have hnot : ¬Sample.afterTurn.FirstOn "floatzel" Sample.strike := by
    rintro ⟨-, hnone⟩
    rw [show Sample.strike.defenceStat = "def" from rfl] at hnone
    rw [hnone] at hdefence
    cases hdefence
  obtain ⟨vs', hvs', hnarrows, -⟩ :=
    points_narrow_unless_first Sample.reachable_afterTurn Sample.strikesIn_hit Sample.learn_hit hvs hne
  exact ⟨Sample.reachable_afterTurn, Sample.strikesIn_hit, Sample.learn_hit, vs, vs', hvs, hne, hvs', hnot,
    hnarrows hnot⟩

/-- What is known of the hit points, as truth values. -/
private theorem Tracker.Sound.points_eq (h : t.Sound) (fs : List Bool)
    (hfs : ((t.knowledge p).get? "hp").map (List.map fun v => v.same (Investment.ofPoints true)) = some fs) :
    (t.knowledge p).get? "hp" = some (fs.map Investment.ofPoints) := by
  obtain ⟨vs, hvs, rfl⟩ := Option.map_eq_some_iff.1 hfs
  have hentry := (h p).points
  rw [possible_of_get? hvs] at hentry
  have hmap : (vs.map fun v => Investment.ofPoints (v.same (Investment.ofPoints true))) = vs := by
    refine (List.map_congr_left fun v hv => ?_).trans (List.map_id vs)
    obtain ⟨full, rfl⟩ := hentry v hv
    rw [Investment.ofPoints_same]
    cases full <;> rfl
  rw [hvs, List.map_map]
  exact congrArg some hmap.symm

namespace Sample

/-- The tracker after a physical attack of the player. -/
def met : Tracker :=
  ((run Rules.standard
    [.update position (.record [("active", foe)]), .learn (.text "me") (.list [mine true 30 false])]).apply
      Tracker.start).2

/-- The first special attack of the player. -/
def firstSpecial : Call := .learn (.text "me") (.list [mine false 36 false])

/-- The tracker after both attacks. -/
def metAgain : Tracker := ((firstSpecial.perform Rules.standard).apply met).2

end Sample

/-- A physical attack shows that there is effort in the hit points, and a first special attack that there is none.  The
one entry is exchanged for the other, which neither narrows what is known nor resets it to everything. -/
theorem points_exchanged_by_first_strike :
    Reachable Rules.standard Sample.met ∧ (Sample.firstSpecial.strikes Sample.met.mine).length = 1 ∧
    (Sample.firstSpecial.perform Rules.standard).apply Sample.met = (.ok (), Sample.metAgain) ∧
    (Sample.met.knowledge "floatzel").get? "hp" = some [Investment.ofPoints true] ∧
    (Sample.metAgain.knowledge "floatzel").get? "hp" = some [Investment.ofPoints false] ∧
    ¬((∀ v ∈ [Investment.ofPoints false], v ∈ [Investment.ofPoints true]) ∨
      ∀ v, v ∈ [Investment.ofPoints false] ↔ ∃ full, v = Investment.ofPoints full) := by
  have hmet : Reachable Rules.standard Sample.met := Reachable.start.run _
  have hagain : Reachable Rules.standard Sample.metAgain := hmet.call _
  have hevaluated : ((Sample.firstSpecial.perform Rules.standard).apply Sample.met).1.isOk = true ∧
      ((Sample.met.knowledge "floatzel").get? "hp").map (List.map fun v => v.same (Investment.ofPoints true)) =
        some [true] ∧
      ((Sample.metAgain.knowledge "floatzel").get? "hp").map (List.map fun v => v.same (Investment.ofPoints true)) =
        some [false] := by decide +kernel
  obtain ⟨hok, hbefore, hafter⟩ := hevaluated
  have hne : Investment.ofPoints false ≠ Investment.ofPoints true := by
    intro heq
    have hsame := (Investment.ofPoints_same_iff false true).2 heq
    rw [Investment.ofPoints_same] at hsame
    cases hsame
  refine ⟨hmet, rfl, Change.apply_of_isOk hok, hmet.sound.points_eq [true] hbefore,
    hagain.sound.points_eq [false] hafter, ?_⟩
  rintro (hsubset | hall)
  · exact hne (List.mem_singleton.1 (hsubset _ List.mem_cons_self))
  · exact hne (List.mem_singleton.1 ((hall _).2 ⟨true, rfl⟩)).symm

end Docsmith.Battle
