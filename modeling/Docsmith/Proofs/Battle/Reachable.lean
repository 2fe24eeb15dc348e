import Docsmith.Proofs.Battle.Sequence
import Docsmith.Proofs.Battle.Truth

/-!
# Trackers that calls can reach

A call may fail, and what it did before stays.  An attack that breaks off has at most made a stat known, so `Effect`
says what an attack can do to what is known of the opponent, however it ends (`learnEvent_effect`).  In every tracker
that calls can reach, the entries are investments, and the hit points are known wherever a defence is
(`Reachable.sound`).
-/

namespace Docsmith.Battle

namespace Tracker

variable {rules : Rules} {me event : Value} {s : Strike} {t t' : Tracker} {p stat : String} {fault : Fault}

/-! ### Attacks that break off -/

private theorem apply_known {vs : List Value} (h : (t.knowledge p).get? stat = some vs) :
    (known p stat).apply t = (.ok vs, t) :=
  known_eq_ok.2 ⟨rfl, h⟩

private theorem addDefences_succeeds (ds : List (Value × Value)) (hstat : (t.knowledge p).has stat)
    (hpoints : (t.knowledge p).has "hp") : ((addDefences p stat ds).apply t).1 = .ok () := by
  induction ds generalizing t with
  | nil => rfl
  | cons d ds ih =>
    have hhas : ∀ {u : Tracker} {s k : String} (vs : List Value), (u.knowledge p).has k →
        ((u.withStat p s vs).knowledge p).has k := by
      intro u s k vs hk
      rw [knowledge_withStat, Fields.has, Fields.get?_put]
      split
      · rfl
      · exact hk
    obtain ⟨vs, hvs⟩ := Option.isSome_iff_exists.1 hstat
    obtain ⟨hs, hhs⟩ := Option.isSome_iff_exists.1 (hhas (s := stat) (vs ++ [d.1]) hpoints)
    rw [addDefences, Change.apply_bind_of_ok (apply_known hvs), changeStat_eq,
      Change.apply_bind_of_ok (apply_setStat _ _ _ _), Change.apply_bind_of_ok (apply_known hhs), changeStat_eq,
      Change.apply_bind_of_ok (apply_setStat _ _ _ _)]
    exact ih (hhas _ (hhas _ hstat)) (hhas _ (hhas _ hpoints))

private theorem keepKnown_succeeds (vs : List Value) (h : (t.knowledge p).has stat) :
    ∃ us, (keepKnown p stat vs).apply t = (.ok us, t) := by
  cases vs with
  | nil => exact ⟨[], rfl⟩
  | cons v vs =>
    obtain ⟨before, hbefore⟩ := Option.isSome_iff_exists.1 h
    exact ⟨kept before (v :: vs), Change.apply_bind_of_ok (apply_known hbefore) _⟩

private theorem narrowDefences_succeeds (ds : List (Value × Value)) (hne : stat ≠ "hp")
    (hstat : (t.knowledge p).has stat) (hpoints : (t.knowledge p).has "hp") :
    ((narrowDefences p stat ds).apply t).1 = .ok () := by
  obtain ⟨us, hus⟩ := keepKnown_succeeds (ds.map (·.1)) hstat
  have hpoints' : ((t.withStat p stat us).knowledge p).has "hp" := by
    rw [knowledge_withStat, Fields.has, Fields.get?_put_of_ne hne.symm]
    exact hpoints
  obtain ⟨hs, hhs⟩ := keepKnown_succeeds (ds.map (·.2)) hpoints'
  -- both stats have just been set, so they are found again
  have hnow : (((t.withStat p stat us).withStat p "hp" hs).knowledge p).get? stat = some us := by
    rw [knowledge_withStat, Fields.get?_put_of_ne hne, knowledge_withStat, Fields.get?_put_self]
  have hnow' : ∀ vs, ((((t.withStat p stat us).withStat p "hp" hs).withStat p stat vs).knowledge p).get? "hp" =
      some hs := by
    intro vs
    rw [knowledge_withStat, Fields.get?_put_of_ne hne.symm, knowledge_withStat, Fields.get?_put_self]
  rw [narrowDefences, Change.apply_bind_of_ok hus, Change.apply_bind_of_ok (apply_setStat _ _ _ _),
    Change.apply_bind_of_ok hhs, Change.apply_bind_of_ok (apply_setStat _ _ _ _),
    Change.apply_bind_of_ok (apply_known hnow), Change.apply_bind_of_ok (apply_setStat _ _ _ _),
    Change.apply_bind_of_ok (apply_known (hnow' _)), apply_setStat]

/-- Once the search for defences has ended nothing can fail, because the defence and the hit points are known. -/
theorem learnWays_succeeds (hne : stat ≠ "hp") (hpaired : (t.knowledge p).has stat → (t.knowledge p).has "hp")
    (ds : List (Value × Value)) :
    (Change.apply (do
      if (← known p stat).isEmpty then addDefences p stat ds else narrowDefences p stat ds : Change Tracker Unit)
      (t.withDefence p stat)).1 = .ok () := by
  have hsetUp := defenceSetUp_withDefence (p := p) hne t
  have hhas : ((t.withDefence p stat).knowledge p).has stat := by
    rw [Fields.has, hsetUp.now]
    rfl
  have hpoints : ((t.withDefence p stat).knowledge p).has "hp" := by
    rw [Fields.has, hsetUp.points]
    split
    next hs => exact hpaired hs
    next => rfl
  rw [Change.apply_bind_of_ok (apply_known hsetUp.now)]
  split
  · exact addDefences_succeeds ds hhas hpoints
  · exact narrowDefences_succeeds ds hne hhas hpoints

/-- The player's attack breaks off before anything is learned, or when the defence has just been made known. -/
private theorem learnAttacking_error {rs : List (Int × Int)} (hp : s.event.field "def_poke" = .ok (.text p))
    (hpaired : (t.knowledge p).has s.defenceStat → (t.knowledge p).has "hp")
    (h : (learnAttacking s.event (rangeValues rs) wayValuesWithPoints).apply t = (.error fault, t')) :
    t' = t ∨ DefenceSetUp p s.defenceStat t t' := by
  unfold learnAttacking at h
  rw [Change.liftM_bind_eq_error] at h
  rcases h with ⟨-, hsame⟩ | ⟨move, hmove, h⟩
  · exact .inl hsame
  rw [Change.liftM_bind_eq_error] at h
  rcases h with ⟨-, hsame⟩ | ⟨damage, hdamage, h⟩
  · exact .inl hsame
  rw [Change.liftM_bind_eq_error] at h
  rcases h with ⟨-, hsame⟩ | ⟨category, hcategory, h⟩
  · exact .inl hsame
  right
  have hphysical : s.isPhysical = category.isText "Physical" := by
    simp [Strike.isPhysical, hmove, hcategory, bind, Except.bind, Outcome.holds]
  have hne : s.defenceStat ≠ "hp" := (ne_of_mem_stats s.defenceStat_mem).1
  have hstat : (if category.isText "Physical" then "def" else "spd") = s.defenceStat := by
    rw [Strike.defenceStat, defenceName, hphysical]
  simp only [hp, hstat, Change.liftM_bind_eq_error, Except.ok.injEq, exists_eq_left', reduceCtorEq, false_and,
    false_or] at h
  rw [Change.bind_eq_error, apply_allowedDefences] at h
  rcases h with h | ⟨ways, t₁, hways, h⟩
  · rw [Prod.mk.injEq] at h
    rw [← h.2]
    exact defenceSetUp_withDefence hne t
  exfalso
  rw [Prod.mk.injEq] at hways
  obtain ⟨-, rfl⟩ := hways
  rw [Value.keyName_text, Change.apply_bind_of_ok (Change.apply_liftM _ _)] at h
  have hok := learnWays_succeeds hne hpaired
    (ways.map fun w => (Investment.ofParts w.1 w.2.1, Investment.ofEffort w.2.2))
  rw [h] at hok
  cases hok

/-- The opponent's attack breaks off before anything is learned, or when its attack has just been made known. -/
private theorem learnDefending_error {rs : List (Int × Int)} (hp : s.event.field "atk_poke" = .ok (.text p))
    (h : (learnDefending s.event (rangeValues rs) wayValues).apply t = (.error fault, t')) :
    t' = t ∨ AttackSetUp p s.attackStat t t' := by
  unfold learnDefending at h
  rw [Change.liftM_bind_eq_error] at h
  rcases h with ⟨-, hsame⟩ | ⟨move, hmove, h⟩
  · exact .inl hsame
  rw [Change.liftM_bind_eq_error] at h
  rcases h with ⟨-, hsame⟩ | ⟨damage, hdamage, h⟩
  · exact .inl hsame
  rw [Change.liftM_bind_eq_error] at h
  rcases h with ⟨-, hsame⟩ | ⟨category, hcategory, h⟩
  · exact .inl hsame
  right
  have hphysical : s.isPhysical = category.isText "Physical" := by
    simp [Strike.isPhysical, hmove, hcategory, bind, Except.bind, Outcome.holds]
  have hstat : (if category.isText "Physical" then "atk" else "spa") = s.attackStat := by
    rw [Strike.attackStat, hphysical]
  simp only [hp, hstat, Change.liftM_bind_eq_error, Except.ok.injEq, exists_eq_left', reduceCtorEq, false_and,
    false_or] at h
  have hsetUp := attackSetUp_withAttack p s.attackStat t
  rw [Change.bind_eq_error, apply_allowedAttacks] at h
  rcases h with h | ⟨ways, t₁, hways, h⟩
  · rw [Prod.mk.injEq] at h
    rw [← h.2]
    exact hsetUp
  exfalso
  rw [Prod.mk.injEq] at hways
  obtain ⟨-, rfl⟩ := hways
  have hhas : ((t.withAttack p s.attackStat).knowledge p).has s.attackStat := by
    rw [Fields.has, hsetUp.now]
    rfl
  obtain ⟨us, hus⟩ := keepKnown_succeeds ways hhas
  rw [Value.keyName_text, Change.apply_bind_of_ok (Change.apply_liftM _ _),
    Change.apply_bind_of_ok (apply_known hsetUp.now)] at h
  split at h
  · simp [apply_setStat] at h
  · simp [Change.bind_eq_error, hus, apply_setStat] at h

/-! ### What an attack can do -/

/-- The same is known in two trackers, but for the speed. -/
def SameKnown (t t' : Tracker) : Prop :=
  ∀ q stat, stat ≠ "spe" → (t'.knowledge q).get? stat = (t.knowledge q).get? stat

/-- What a strike can do to what is known, by the outcome of learning from it. -/
inductive Effect (rules : Rules) (s : Strike) (o : Outcome Unit) (t t' : Tracker) : Prop
  | same (hquiet : o = .ok () → s.hits = false) (h : SameKnown t t')
  | defence (p : String) (h : s.landsOn p = true) (hstep : DefenceStep p s.defenceStat (s.defences rules) t t')
  | attack (p : String) (h : s.comesFrom p = true) (hstep : AttackStep p s.attackStat (s.attacks rules) t t')
  | defenceSetUp (p : String) (h : s.landsOn p = true) (hfault : o ≠ .ok ())
      (hsetUp : DefenceSetUp p s.defenceStat t t')
  | attackSetUp (p : String) (h : s.comesFrom p = true) (hfault : o ≠ .ok ())
      (hsetUp : AttackSetUp p s.attackStat t t')

private theorem SameKnown.refl (t : Tracker) : SameKnown t t := fun _ _ _ => rfl

private theorem sameKnown_of_investment (h : t'.investment = t.investment) : SameKnown t t' := by
  intro q stat _
  rw [knowledge, knowledge, h]

/-- The hit points are known of every creature of which a defence is known. -/
def Paired (t : Tracker) : Prop :=
  ∀ p physical, (t.knowledge p).has (defenceName physical) → (t.knowledge p).has "hp"

private theorem learnEvent_error (hpaired : t.Paired) (h : (learnEvent rules me event).apply t = (.error fault, t')) :
    Effect rules ⟨t.mine, me, event⟩ (.error fault) t t' := by
  have hnothing : t' = t → Effect rules ⟨t.mine, me, event⟩ (.error fault) t t' := by
    rintro rfl
    exact .same (by simp) (.refl t')
  unfold learnEvent at h
  rw [Change.liftM_bind_eq_error] at h
  rcases h with ⟨-, hsame⟩ | ⟨attacker, hattacker, h⟩
  · exact hnothing hsame
  rw [Change.liftM_bind_eq_error] at h
  rcases h with ⟨-, hsame⟩ | ⟨hitting, hhitting, h⟩
  · exact hnothing hsame
  have hmine : Strike.isMine ⟨t.mine, me, event⟩ = attacker.same me := Strike.isMine_eq hattacker
  have hhits : Strike.hits ⟨t.mine, me, event⟩ = hitting.truthy := by
    simp [Strike.hits, hhitting, bind, Except.bind, Outcome.holds]
  have hmove : ∀ {u : Tracker}, (learnMove event).apply u = (.error fault, t') →
      t'.mine = u.mine ∧ t'.investment = u.investment := by
    intro u hu
    have hkeeps := learnMove_keeps event u
    rw [hu, Prod.mk.injEq] at hkeeps
    exact hkeeps
  cases hm : attacker.same me with
  | true =>
    cases hh : hitting.truthy with
    | false => simp [hm, hh] at h
    | true =>
      simp only [hm, hh, if_true, Change.get_bind_apply, Change.liftM_bind_eq_error] at h
      rcases h with ⟨-, hsame⟩ | ⟨rs, hrs, h⟩
      · exact hnothing hsame
      obtain ⟨⟨p, hp⟩, -, -⟩ := ranges_ok hrs
      rcases learnAttacking_error (s := ⟨t.mine, me, event⟩) hp (hpaired p _) h with hsame | hsetUp
      · exact hnothing hsame
      · refine .defenceSetUp p ?_ (by simp) hsetUp
        simp [Strike.landsOn, hmine, hhits, hm, hh, hp, bind, Except.bind, Outcome.holds, Value.isText]
  | false =>
    cases hh : hitting.truthy with
    | false =>
      simp only [hm, hh, Bool.false_eq_true, if_false] at h
      exact .same (by simp) (sameKnown_of_investment (hmove h).2)
    | true =>
      simp only [hm, hh, Bool.false_eq_true, if_false, if_true, Change.get_bind_apply,
        Change.liftM_bind_eq_error] at h
      rcases h with ⟨-, hsame⟩ | ⟨rs, hrs, h⟩
      · exact hnothing hsame
      obtain ⟨-, ⟨p, hp⟩, -⟩ := ranges_ok hrs
      have hfrom : Strike.comesFrom p ⟨t.mine, me, event⟩ = true := by
        simp [Strike.comesFrom, hmine, hhits, hm, hh, hp, bind, Except.bind, Outcome.holds, Value.isText]
      rw [Change.bind_eq_error] at h
      rcases h with h | ⟨_, t₁, hlearn, h⟩
      · rcases learnDefending_error (s := ⟨t.mine, me, event⟩) hp h with hsame | hsetUp
        · exact hnothing hsame
        · exact .attackSetUp p hfrom (by simp) hsetUp
      · -- the damage has been learned from, and the move cannot be noted
        have hview : Tracker.rangesDefending rules event (Strike.view ⟨t.mine, me, event⟩) = .ok rs := by
          rw [← hrs]
          exact rangesDefending_congr rfl
        have hstep := learnDefending_ok (s := ⟨t.mine, me, event⟩) hp hview hlearn
        exact .attack p hfrom (hstep.of_eq (hmove h).1 (hmove h).2)

private theorem learnEvent_effect (hpaired : t.Paired) {o : Outcome Unit}
    (h : (learnEvent rules me event).apply t = (o, t')) :
    Effect rules ⟨t.mine, me, event⟩ o t t' := by
  rcases o with fault | _
  · exact learnEvent_error hpaired h
  · rcases learnEvent_cases h with ⟨p, hp, hstep⟩ | ⟨p, hp, hstep⟩ | ⟨hquiet, -, hsame⟩
    · exact .defence p hp hstep
    · exact .attack p hp hstep
    · exact .same (fun _ => hquiet) (sameKnown_of_investment hsame)

/-! ### Turns and openings, however they end -/

/-- What each attack preserves, and what does not depend on the speed, is preserved by a turn. -/
theorem learnTurn_preserves {P : Tracker → Prop} (hpaired : ∀ {u}, P u → u.Paired)
    (heffect : ∀ {s o u u'}, P u → Effect rules s o u u' → P u') (hspeed : ∀ {u u'}, P u → SameKnown u u' → P u')
    (me turn : Value) (h : P t) : P (learnTurn rules me turn t).2.2 := by
  refine learnTurn_closed (fun event u hu => ?_) (fun attacks u hu => ?_) turn h
  · -- an attack needs that the hit points are known where a defence is, so `P` has to give this at every step
    exact heffect hu (learnEvent_effect (hpaired hu) rfl)
  · have horder := learnOrder_keeps rules me attacks u
    exact hspeed hu fun q stat hstat => get?_of_besidesSpeed horder q hstat

theorem learn_single (hpaired : t.Paired) {turn : Value} (hs : strikesIn t.mine me turn = [s]) {o : Outcome Unit}
    (h : ((Call.learn me turn).perform rules).apply t = (o, t')) :
    ∃ o₁ t₁, Effect rules s o₁ t t₁ ∧ SameKnown t₁ t' ∧ (o = .ok () → o₁ = .ok ()) := by
  have hnothing : ∀ fault, (Except.error fault, t) = (o, t') →
      ∃ o₁ t₁, Effect rules s o₁ t t₁ ∧ SameKnown t₁ t' ∧ (o = .ok () → o₁ = .ok ()) := by
    intro fault heq
    rw [Prod.mk.injEq] at heq
    obtain ⟨rfl, rfl⟩ := heq
    exact ⟨.error fault, t, .same (by simp) (.refl t), .refl t, id⟩
  rw [strikesIn_eq] at hs
  obtain ⟨event, hevent, rfl⟩ := List.map_eq_singleton_iff.1 hs
  change (learnTurn rules me turn t).2 = (o, t') at h
  rcases hsifted : sifted turn with fault | attacks
  · rw [learnTurn_eq, hsifted, Change.error_bind] at h
    exact hnothing fault h
  rw [attacksIn_of_sifted hsifted] at hevent
  rw [hevent] at hsifted
  rw [learnTurn_single hsifted, apply_learnAttack] at h
  generalize reduceCritical.apply event = x at h hnothing ⊢
  obtain ⟨fault | _, event'⟩ := x
  · exact hnothing fault h
  · exact ⟨o, t', learnEvent_effect hpaired h, .refl t', id⟩

/-- A creature either has all its investments possible again or is as before. -/
private theorem initialiseOne_opens (rules : Rules) (creature : Value) (t : Tracker) (p : String) :
    ((initialiseOne rules () creature).apply t).2.Open p ∨
      ((initialiseOne rules () creature).apply t).2.knowledge p = t.knowledge p := by
  unfold initialiseOne
  rw [Change.apply_bind, Change.apply_liftM]
  rcases creature.field "name" with fault | name
  · exact .inr rfl
  simp only [Change.apply_bind, Change.apply_liftM]
  rcases name.keyName with fault | key
  · exact .inr rfl
  simp only [apply_openWith]
  by_cases hp : p = key
  · subst hp
    left
    rcases speedRange rules name with fault | range
    · exact open_put p t
    · exact (open_put p t).withSpeed p range
  · right
    rcases speedRange rules name with fault | range
    · rw [knowledge_put, if_neg hp]
    · simp only [apply_setStat]
      rw [ChangesOnly.knowledge_of_ne (changesOnly_withStat (List.mem_singleton.2 rfl) _ _) hp, knowledge_put,
        if_neg hp]

theorem initialise_opens (rules : Rules) (team active : Value) (t : Tracker) (p : String) :
    ((initialise rules team active).apply t).2.Open p ∨
      ((initialise rules team active).apply t).2.knowledge p = t.knowledge p := by
  -- a creature that has been opened is opened again or stays as it is
  have htrans : ∀ {u u' u'' : Tracker}, u'.Open p ∨ u'.knowledge p = u.knowledge p →
      u''.Open p ∨ u''.knowledge p = u'.knowledge p → u''.Open p ∨ u''.knowledge p = u.knowledge p := by
    rintro u u' u'' (hopen | hsame) (hopen' | hsame')
    · exact .inl hopen'
    · exact .inl (hopen.congr fun stat _ => by rw [hsame'])
    · exact .inl hopen'
    · exact .inr (hsame'.trans hsame)
  have hteam : ∀ (members : List Value) (u : Tracker), ((members.forM (initialiseOne rules ())).apply u).2.Open p ∨
      ((members.forM (initialiseOne rules ())).apply u).2.knowledge p = u.knowledge p := by
    intro members
    induction members with
    | nil => exact fun u => .inr rfl
    | cons creature members ih =>
      intro u
      have hfirst := initialiseOne_opens rules creature u p
      rw [List.forM, Change.apply_bind]
      generalize (initialiseOne rules () creature).apply u = after at hfirst ⊢
      obtain ⟨fault | _, u'⟩ := after
      · exact hfirst
      · exact htrans hfirst (ih u')
  have hfirst := initialiseOne_opens rules active t p
  rw [initialise_eq, Change.apply_bind]
  generalize (initialiseOne rules () active).apply t = after at hfirst ⊢
  obtain ⟨fault | _, t₁⟩ := after
  · exact hfirst
  · refine htrans hfirst ?_
    simp only [Change.apply_bind, Change.apply_liftM]
    rcases team.elements with fault | members
    · exact .inr rfl
    · exact hteam members t₁

end Tracker

/-! ### Reachable trackers -/

/-- A tracker that calls can reach from one that knows nothing, whether they succeed or fail. -/
inductive Reachable (rules : Rules) : Tracker → Prop
  | start : Reachable rules Tracker.start
  | call {t : Tracker} (call : Call) (h : Reachable rules t) : Reachable rules ((call.perform rules).apply t).2

namespace Tracker

/-- The entries that are known of a creature are investments, and the hit points are known where a defence is. -/
structure SoundAt (t : Tracker) (p : String) : Prop where
  paired : ∀ physical, (t.knowledge p).has (defenceName physical) → (t.knowledge p).has "hp"
  entry : ∀ stat ∈ ["atk", "def", "spa", "spd"], ∀ v ∈ t.possible p stat, ∃ way, v = Investment.ofWay way
  points : ∀ v ∈ t.possible p "hp", ∃ full, v = Investment.ofPoints full

/-- The entries that are known of all creatures are investments. -/
def Sound (t : Tracker) : Prop := ∀ p, t.SoundAt p

variable {rules : Rules} {s : Strike} {t t' : Tracker} {p stat : String}

theorem Sound.paired (h : t.Sound) : t.Paired := fun p => (h p).paired

private theorem SoundAt.congr (h : t.SoundAt p)
    (hsame : ∀ stat, stat ≠ "spe" → (t'.knowledge p).get? stat = (t.knowledge p).get? stat) : t'.SoundAt p := by
  have hpossible : ∀ stat, stat ≠ "spe" → t'.possible p stat = t.possible p stat := by
    intro stat hstat
    rw [possible, possible, hsame stat hstat]
  refine ⟨fun physical hhas => ?_, fun stat hstat v hv => ?_, fun v hv => ?_⟩
  · rw [Fields.has, hsame _ (by cases physical <;> decide)] at hhas
    rw [Fields.has, hsame _ (by decide)]
    exact h.paired physical hhas
  · rw [hpossible stat (ne_of_mem_stats hstat).2] at hv
    exact h.entry stat hstat v hv
  · rw [hpossible "hp" (by decide)] at hv
    exact h.points v hv

/-- The entries that a list was cut down to are among those found, unless all have come back. -/
private theorem mem_of_mem_orAll_kept {before found all : List Value} {v : Value}
    (h : v ∈ orAll (kept before found) all) :
    v ∈ found ∨ v ∈ all := by
  unfold orAll at h
  split at h
  · exact .inr h
  · exact .inl (List.mem_filter.1 h).1

theorem exists_of_mem_map_ofWay {α : Type} (f : α → Bool × Bool) (ws : List α) :
    ∀ v ∈ ws.map fun w => Investment.ofWay (f w), ∃ way, v = Investment.ofWay way := by
  intro v hv
  obtain ⟨w, -, rfl⟩ := List.mem_map.1 hv
  exact ⟨f w, rfl⟩

theorem exists_of_mem_map_ofPoints {α : Type} (f : α → Bool) (ws : List α) :
    ∀ v ∈ ws.map fun w => Investment.ofPoints (f w), ∃ full, v = Investment.ofPoints full := by
  intro v hv
  obtain ⟨w, -, rfl⟩ := List.mem_map.1 hv
  exact ⟨f w, rfl⟩

theorem exists_of_mem_all {v : Value} (h : v ∈ Investment.all) : ∃ way, v = Investment.ofWay way := by
  obtain ⟨way, -, rfl⟩ := List.mem_map.1 h
  exact ⟨way, rfl⟩

theorem exists_of_mem_allPoints {v : Value} (h : v ∈ Investment.allPoints) : ∃ full, v = Investment.ofPoints full := by
  simp only [Investment.allPoints, List.mem_cons, List.not_mem_nil, or_false] at h
  rcases h with rfl | rfl
  · exact ⟨true, rfl⟩
  · exact ⟨false, rfl⟩

private theorem soundAt_of_open (h : t.Open p) : t.SoundAt p := by
  refine ⟨fun _ _ => ?_, fun stat hstat v hv => ?_, fun v hv => ?_⟩
  · rw [Fields.has, h.points]
    rfl
  · rw [possible, h.stat stat hstat] at hv
    exact exists_of_mem_all hv
  · rw [possible, h.points] at hv
    exact exists_of_mem_allPoints hv

/-- It is enough to look at the stat that has changed and at the hit points. -/
private theorem SoundAt.of_only (h : t.SoundAt p) (honly : ChangesOnly p [stat, "hp"] t t')
    (hpaired : ∀ physical, (t'.knowledge p).has (defenceName physical) → (t'.knowledge p).has "hp")
    (hentry : ∀ v ∈ t'.possible p stat, ∃ way, v = Investment.ofWay way)
    (hpoints : ∀ v ∈ t'.possible p "hp", ∃ full, v = Investment.ofPoints full) : t'.SoundAt p := by
  refine ⟨hpaired, fun stat' hstat' v hv => ?_, hpoints⟩
  by_cases hs : stat' = stat
  · subst hs
    exact hentry v hv
  · rw [possible, honly.rest stat' (by simp [hs, (ne_of_mem_stats hstat').1])] at hv
    exact h.entry stat' hstat' v hv

private theorem SoundAt.defenceStep {ways : List (Bool × Bool × Bool)} {physical : Bool} (h : t.SoundAt p)
    (hstep : DefenceStep p (defenceName physical) ways t t') : t'.SoundAt p := by
  have hfound := exists_of_mem_map_ofWay (fun w => (w.1, w.2.1)) ways
  have hfound' := exists_of_mem_map_ofPoints (fun w => w.2.2) ways
  by_cases hempty : t.possible p (defenceName physical) = []
  · obtain ⟨hnow, hpoints⟩ := hstep.first hempty
    refine h.of_only hstep.only (fun _ _ => ?_) (fun v hv => ?_) (fun v hv => ?_)
    · rw [Fields.has, hpoints]
      split
      next hknown => simpa [Fields.has] using h.paired physical hknown
      next => rfl
    · rw [possible, hnow] at hv
      exact hfound v hv
    · rw [possible, hpoints] at hv
      split at hv
      next =>
        -- entries are added to the hit points that were known
        rcases hhp : (t.knowledge p).get? "hp" with _ | vs
        · simp [hhp] at hv
        · rw [hhp, Option.map_some, Option.getD_some, List.mem_append] at hv
          rcases hv with hv | hv
          · exact h.points v (by rwa [possible, hhp])
          · exact hfound' v hv
      next => exact hfound' v hv
  · obtain ⟨hnow, hpoints⟩ := hstep.again hempty
    refine h.of_only hstep.only (fun _ _ => ?_) (fun v hv => ?_) (fun v hv => ?_)
    · rw [Fields.has, hpoints]
      rfl
    · rw [possible, hnow] at hv
      rcases mem_of_mem_orAll_kept hv with hv | hv
      · exact hfound v hv
      · exact exists_of_mem_all hv
    · rw [possible, hpoints] at hv
      rcases mem_of_mem_orAll_kept hv with hv | hv
      · exact hfound' v hv
      · exact exists_of_mem_allPoints hv

private theorem SoundAt.defenceSetUp {physical : Bool} (h : t.SoundAt p)
    (hsetUp : DefenceSetUp p (defenceName physical) t t') : t'.SoundAt p := by
  refine h.of_only hsetUp.only (fun _ _ => ?_) (fun v hv => ?_) (fun v hv => ?_)
  · rw [Fields.has, hsetUp.points]
    split
    next hknown => exact h.paired physical hknown
    next => rfl
  · rw [possible, hsetUp.now] at hv
    exact h.entry _ (by cases physical <;> decide) v hv
  · rw [possible, hsetUp.points] at hv
    split at hv
    next => exact h.points v hv
    next => cases hv

/-- An attack leaves the defences and the hit points alone. -/
private theorem SoundAt.of_attack (h : t.SoundAt p) (honly : ChangesOnly p [s.attackStat] t t')
    (hentry : ∀ v ∈ t'.possible p s.attackStat, ∃ way, v = Investment.ofWay way) : t'.SoundAt p := by
  have hpoints : (t'.knowledge p).get? "hp" = (t.knowledge p).get? "hp" :=
    honly.rest "hp" s.points_ne_attackStat
  refine h.of_only (honly.mono (by simp)) (fun physical hknown => ?_) hentry (fun v hv => ?_)
  · rw [Fields.has, honly.rest _ (s.defenceName_ne_attackStat physical)] at hknown
    rw [Fields.has, hpoints]
    exact h.paired physical hknown
  · rw [possible, hpoints] at hv
    exact h.points v hv

private theorem SoundAt.attackStep {ways : List (Bool × Bool)} (h : t.SoundAt p)
    (hstep : AttackStep p s.attackStat ways t t') : t'.SoundAt p := by
  have hfound := exists_of_mem_map_ofWay id ways
  refine h.of_attack hstep.only fun v hv => ?_
  by_cases hempty : t.possible p s.attackStat = []
  · rw [possible, hstep.first hempty, Option.getD_some, orAll] at hv
    split at hv
    · exact exists_of_mem_all hv
    · exact hfound v hv
  · rw [possible, hstep.again hempty] at hv
    rcases mem_of_mem_orAll_kept hv with hv | hv
    · exact hfound v hv
    · exact exists_of_mem_all hv

private theorem SoundAt.attackSetUp (h : t.SoundAt p) (hsetUp : AttackSetUp p s.attackStat t t') : t'.SoundAt p := by
  refine h.of_attack hsetUp.only fun v hv => ?_
  rw [possible, hsetUp.now] at hv
  exact h.entry _ s.attackStat_mem v hv

theorem Sound.congr (h : t.Sound) (hsame : SameKnown t t') : t'.Sound := fun q => (h q).congr (hsame q)

theorem Sound.effect {o : Outcome Unit} (h : t.Sound) (heffect : Effect rules s o t t') : t'.Sound := by
  have hothers : ∀ {p stats}, ChangesOnly p stats t t' → t'.SoundAt p → t'.Sound := by
    intro p stats honly hp q
    by_cases hq : q = p
    · exact hq ▸ hp
    · exact (h q).congr fun stat _ => by rw [honly.knowledge_of_ne hq]
  cases heffect with
  | same hquiet hsame => exact h.congr hsame
  | defence p hp hstep => exact hothers hstep.only ((h p).defenceStep hstep)
  | attack p hp hstep => exact hothers hstep.only ((h p).attackStep hstep)
  | defenceSetUp p hp hfault hsetUp => exact hothers hsetUp.only ((h p).defenceSetUp hsetUp)
  | attackSetUp p hp hfault hsetUp => exact hothers hsetUp.only ((h p).attackSetUp hsetUp)

private theorem sound_of_investment_nil (h : t.investment = []) : t.Sound := by
  have hnone : ∀ p stat, (t.knowledge p).get? stat = none := by
    intro p stat
    rw [knowledge, h]
    rfl
  intro p
  refine ⟨fun physical hknown => ?_, fun stat _ v hv => ?_, fun v hv => ?_⟩
  · rw [Fields.has, hnone] at hknown
    cases hknown
  · rw [possible, hnone] at hv
    cases hv
  · rw [possible, hnone] at hv
    cases hv

end Tracker

theorem Reachable.sound {rules : Rules} {t : Tracker} (h : Reachable rules t) : t.Sound := by
  induction h with
  | start => exact Tracker.sound_of_investment_nil rfl
  | @call t call h ih =>
    cases call with
    | reset => exact Tracker.sound_of_investment_nil rfl
    | update mine theirs => exact ih.congr fun _ _ _ => rfl
    | initialise team active =>
      intro p
      rcases Tracker.initialise_opens rules team active t p with hopen | hsame
      · exact Tracker.soundAt_of_open hopen
      · exact (ih p).congr fun stat _ => by rw [← hsame]; rfl
    | learn me turn =>
      exact Tracker.learnTurn_preserves Tracker.Sound.paired Tracker.Sound.effect Tracker.Sound.congr me turn ih

/-- A run reaches a tracker, also if it breaks off. -/
theorem Reachable.run {rules : Rules} {t : Tracker} (h : Reachable rules t) (calls : List Call) :
    Reachable rules ((Battle.run rules calls).apply t).2 := by
  induction calls generalizing t with
  | nil => exact h
  | cons call calls ih =>
    have hnext := h.call call
    rw [Battle.run, Change.apply_bind]
    rcases hcall : (call.perform rules).apply t with ⟨fault | _, t'⟩
    · rw [hcall] at hnext
      exact hnext
    · rw [hcall] at hnext
      exact ih hnext

end Docsmith.Battle
