import Docsmith.Proofs.Battle.Learning

/-!
# What learning leaves alone

Each step of learning writes to some stats of the creatures, and one of them to the moves.  A part of a tracker that
does not depend on those stats (`Ignores`) is the same after the step, whether the step succeeds or not.  There is one
lemma for each step, up to an attack (`learnEvent_spares`), the order of attacks (`learnOrder_spares`) and the opening
of a battle (`initialise_spares`).
-/

namespace Docsmith.Battle.Tracker

variable {τ : Type} {part : Tracker → τ} {stats : List String} {stat : String}

/-- A part of a tracker does not depend on some stats of the creatures, nor on whether a creature without stats has an
entry. -/
structure Ignores (stats : List String) (part : Tracker → τ) : Prop where
  stat : ∀ stat ∈ stats, ∀ p vs t, part (t.withStat p stat vs) = part t
  room : ∀ p t, part (t.withRoom p) = part t

/-- A part that does not depend on what is known of the creatures ignores all their stats. -/
theorem ignores_of_investment (h : ∀ t k, part { t with investment := k } = part t) (stats : List String) :
    Ignores stats part := by
  refine ⟨fun stat _ p vs t => h t _, fun p t => ?_⟩
  unfold withRoom
  split
  · rfl
  · exact h t _

/-- What is known of a stat ignores the other stats. -/
theorem ignores_get? (h : stat ∉ stats) : Ignores stats fun t q => (t.knowledge q).get? stat := by
  refine ⟨fun other hother p vs t => ?_, fun p t => ?_⟩
  · funext q
    exact (changesOnly_withStat hother vs t).get?_of_not_mem h q
  · funext q
    exact (changesOnly_withRoom p t).get?_of_not_mem (by simp) q

private theorem setStat_spares (h : Ignores stats part) (hstat : stat ∈ stats) (p : String) (vs : List Value) :
    (setStat p stat vs).Keeps part :=
  h.stat stat hstat p vs

theorem known_spares (part : Tracker → τ) (p stat : String) : (known p stat).Keeps part := by
  refine Change.keeps_get.bind fun t => ?_
  cases (t.knowledge p).get? stat with
  | none => exact fun _ => rfl
  | some vs => exact Change.keeps_pure vs

private theorem ensureKnowledge_spares (h : Ignores stats part) (name : Value) : (ensureKnowledge name).Keeps part := by
  intro t
  rw [apply_ensureKnowledge]
  cases name.keyName with
  | error fault => rfl
  | ok key => exact h.room key t

/-! ### Attacks -/

private theorem allowedDefences_spares (h : Ignores stats part) (hstat : stat ∈ stats) (hpoints : "hp" ∈ stats)
    (name damage results combinations : Value) :
    (allowedDefences name (.text stat) damage results combinations).Keeps part := by
  refine (Change.keeps_liftM _).bind fun count => (ensureKnowledge_spares h name).bind fun key => ?_
  refine Change.keeps_liftM_bind fun statKey hkey => Change.keeps_get.bind fun t => ?_
  rw [Value.keyName_text, Except.ok.injEq] at hkey
  subst hkey
  refine Change.Keeps.ite ((setStat_spares h hstat key []).bind fun _ => ?_) (Change.keeps_liftM _)
  exact (setStat_spares h hpoints key []).bind fun _ => Change.keeps_liftM _

private theorem allowedAttacks_spares (h : Ignores stats part) (hstat : stat ∈ stats)
    (name damage results combinations : Value) :
    (allowedAttacks name (.text stat) damage results combinations).Keeps part := by
  refine (Change.keeps_liftM _).bind fun count => (ensureKnowledge_spares h name).bind fun key => ?_
  refine Change.keeps_liftM_bind fun statKey hkey => Change.keeps_get.bind fun t => ?_
  rw [Value.keyName_text, Except.ok.injEq] at hkey
  subst hkey
  exact Change.Keeps.ite ((setStat_spares h hstat key []).bind fun _ => Change.keeps_liftM _) (Change.keeps_liftM _)

private theorem keepKnown_spares (part : Tracker → τ) (p stat : String) (vs : List Value) :
    (keepKnown p stat vs).Keeps part := by
  cases vs with
  | nil => exact Change.keeps_pure []
  | cons v vs => exact (known_spares part p stat).bind fun before => Change.keeps_pure _

private theorem addDefences_spares (h : Ignores stats part) (hstat : stat ∈ stats) (hpoints : "hp" ∈ stats) (p : String)
    (ds : List (Value × Value)) : (addDefences p stat ds).Keeps part := by
  induction ds with
  | nil => exact Change.keeps_pure ()
  | cons d ds ih =>
    refine (known_spares part p stat).bind fun vs => (setStat_spares h hstat p _).bind fun _ => ?_
    exact (known_spares part p "hp").bind fun hs => (setStat_spares h hpoints p _).bind fun _ => ih

private theorem narrowDefences_spares (h : Ignores stats part) (hstat : stat ∈ stats) (hpoints : "hp" ∈ stats)
    (p : String) (ds : List (Value × Value)) : (narrowDefences p stat ds).Keeps part := by
  refine (keepKnown_spares part p stat _).bind fun vs => (setStat_spares h hstat p vs).bind fun _ => ?_
  refine (keepKnown_spares part p "hp" _).bind fun hs => (setStat_spares h hpoints p hs).bind fun _ => ?_
  refine (known_spares part p stat).bind fun vs => (setStat_spares h hstat p _).bind fun _ => ?_
  exact (known_spares part p "hp").bind fun hs => setStat_spares h hpoints p _

theorem learnAttacking_spares (h : Ignores ["atk", "def", "spa", "spd", "hp"] part)
    (event results combinations : Value) : (learnAttacking event results combinations).Keeps part := by
  refine (Change.keeps_liftM _).bind fun move => (Change.keeps_liftM _).bind fun damage => ?_
  refine (Change.keeps_liftM _).bind fun category => (Change.keeps_liftM _).bind fun name => ?_
  have hstat : (if category.isText "Physical" then "def" else "spd") ∈ ["atk", "def", "spa", "spd", "hp"] := by
    split <;> decide
  refine (allowedDefences_spares h hstat (by decide) name damage results combinations).bind fun ways => ?_
  refine (Change.keeps_liftM _).bind fun key => (known_spares part key _).bind fun vs => ?_
  exact (addDefences_spares h hstat (by decide) key _).ite (narrowDefences_spares h hstat (by decide) key _)

theorem learnDefending_spares (h : Ignores ["atk", "def", "spa", "spd", "hp"] part)
    (event results combinations : Value) : (learnDefending event results combinations).Keeps part := by
  refine (Change.keeps_liftM _).bind fun move => (Change.keeps_liftM _).bind fun damage => ?_
  refine (Change.keeps_liftM _).bind fun category => (Change.keeps_liftM _).bind fun name => ?_
  have hstat : (if category.isText "Physical" then "atk" else "spa") ∈ ["atk", "def", "spa", "spd", "hp"] := by
    split <;> decide
  refine (allowedAttacks_spares h hstat name damage results combinations).bind fun ways => ?_
  refine (Change.keeps_liftM _).bind fun key => (known_spares part key _).bind fun vs => ?_
  refine Change.Keeps.ite (setStat_spares h hstat key _) ?_
  exact (keepKnown_spares part key _ ways).bind fun left => setStat_spares h hstat key _

/-- Taking note of a move writes to the moves and to nothing else. -/
theorem learnMove_spares (h : ∀ t m, part { t with moves := m } = part t) (event : Value) :
    (learnMove event).Keeps part := by
  unfold learnMove
  refine Change.keeps_get.bind fun t => (Change.keeps_liftM _).bind fun active => ?_
  refine (Change.keeps_liftM _).bind fun name => (Change.keeps_liftM _).bind fun key => ?_
  refine Change.keeps_get.bind fun t => ?_
  have hlast : ∀ u : Unit, Change.Keeps part (do
      let move ← event.field "move"
      let shown := ((← get).moves.get? key).getD []
      if !(shown.any fun m => m.same move) then
        modify fun t => { t with moves := t.moves.put key (shown ++ [move]) } : Change Tracker Unit) := by
    intro _
    refine (Change.keeps_liftM _).bind fun move => Change.keeps_get.bind fun t => ?_
    refine Change.Keeps.ite ?_ (Change.keeps_pure _)
    exact Change.keeps_modify fun t => h t _
  refine Change.Keeps.ite (Change.Keeps.bind ?_ hlast) (hlast ())
  exact Change.keeps_modify fun t => h t _

theorem learnEvent_spares (h : Ignores ["atk", "def", "spa", "spd", "hp"] part) {rules : Rules} {me event : Value}
    (hmove : (learnMove event).Keeps part) : (learnEvent rules me event).Keeps part := by
  refine (Change.keeps_liftM _).bind fun attacker => (Change.keeps_liftM _).bind fun hits => ?_
  refine Change.Keeps.ite (Change.Keeps.ite ?_ (Change.keeps_pure ())) (Change.Keeps.ite ?_ hmove)
  · refine Change.keeps_get.bind fun t => (Change.keeps_liftM _).bind fun results => ?_
    exact learnAttacking_spares h event _ _
  · refine Change.keeps_get.bind fun t => (Change.keeps_liftM _).bind fun results => ?_
    exact (learnDefending_spares h event _ _).bind fun _ => hmove

/-! ### The order of attacks -/

private theorem ensureSpeed_spares (h : Ignores ["spe"] part) (rules : Rules) (name : Value) :
    (ensureSpeed rules name).Keeps part := by
  refine (ensureKnowledge_spares h name).bind fun key => Change.keeps_get.bind fun t => ?_
  refine Change.Keeps.ite ?_ (Change.keeps_pure key)
  refine (Change.keeps_liftM _).bind fun least => (Change.keeps_liftM _).bind fun greatest => ?_
  exact (setStat_spares h (by simp) key [least, greatest]).bind fun _ => Change.keeps_pure key

theorem speedEnd_spares (part : Tracker → τ) (key : String) (i : Nat) : (speedEnd key i).Keeps part := by
  refine (known_spares part key "spe").bind fun vs => ?_
  cases vs[i]? with
  | none => exact fun _ => rfl
  | some v => exact Change.keeps_pure v

private theorem setSpeedEnd_spares (h : Ignores ["spe"] part) (key : String) (i : Nat) (v : Value) :
    (setSpeedEnd key i v).Keeps part :=
  (known_spares part key "spe").bind fun vs => setStat_spares h (by simp) key (vs.set i v)

/-- The order of two attacks teaches about the speed and about nothing else. -/
private theorem learnSpeed_spares (h : Ignores ["spe"] part) (rules : Rules) (turn me : Value) :
    (learnSpeed rules turn me).Keeps part := by
  -- one end of the range is compared with the player's speed and perhaps replaced
  have hend : ∀ (key : String) (i : Nat) (isNarrower : Value → Value → Outcome Bool), Change.Keeps part (do
      let bound ← speedEnd key i
      let speed ← (← get).speed
      if ← isNarrower speed bound then setSpeedEnd key i speed : Change Tracker Unit) := by
    intro key i isNarrower
    refine (speedEnd_spares part key i).bind fun bound => Change.keeps_get.bind fun t => ?_
    refine (Change.keeps_liftM _).bind fun speed => (Change.keeps_liftM _).bind fun narrower => ?_
    exact (setSpeedEnd_spares h key i speed).ite (Change.keeps_pure ())
  refine (Change.keeps_liftM _).bind fun first => (Change.keeps_liftM _).bind fun second => ?_
  refine Change.Keeps.ite (Change.keeps_pure ()) ?_
  refine (Change.keeps_liftM _).bind fun strike => (Change.keeps_liftM _).bind fun attacker => ?_
  refine (Change.keeps_liftM _).bind fun player => Change.Keeps.ite ?_ ?_
  · refine (Change.keeps_liftM _).bind fun name => (ensureSpeed_spares h rules name).bind fun key => ?_
    exact (hend key 1 Value.lt).ite (hend key 0 fun speed bound => bound.lt speed)
  · refine (ensureSpeed_spares h rules attacker).bind fun key => ?_
    exact (hend key 1 Value.lt).ite (hend key 0 fun speed bound => bound.lt speed)

theorem learnOrder_spares (h : Ignores ["spe"] part) (rules : Rules) (me : Value) (attacks : List Value) :
    (learnOrder rules me attacks).Keeps part :=
  (Change.keeps_liftM _).bind fun _ => (learnSpeed_spares h rules (.list attacks) me).ite (Change.keeps_pure ())

/-! ### The opening of a battle -/

/-- A tracker has nothing to write down before it opens. -/
theorem initialise_eq (rules : Rules) (team active : Value) :
    (initialise rules team active : Change Tracker Unit) = (do
      initialiseOne rules () active
      (← team.elements).forM (initialiseOne rules ())) := rfl

theorem initialise_spares (h : ∀ t k, part { t with investment := k } = part t) (rules : Rules)
    (team active : Value) : (initialise rules team active).Keeps part := by
  have hone : ∀ creature, (initialiseOne rules () creature : Change Tracker Unit).Keeps part := by
    intro creature
    refine (Change.keeps_liftM _).bind fun name => (Change.keeps_liftM _).bind fun key => ?_
    refine Change.Keeps.bind (Change.keeps_modify fun t => h t _) fun _ => (Change.keeps_liftM _).bind fun range => ?_
    exact setStat_spares (ignores_of_investment h ["spe"]) (by simp) key range
  rw [initialise_eq]
  refine (hone active).bind fun _ => (Change.keeps_liftM _).bind fun members => ?_
  exact Change.keeps_forM fun creature _ => hone creature

end Docsmith.Battle.Tracker
