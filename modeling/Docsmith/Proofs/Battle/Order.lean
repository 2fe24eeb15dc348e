import Docsmith.Proofs.Battle.Speed
import Docsmith.Proofs.Battle.Turn

/-!
# The order of attacks

When a turn has two attacks of the same priority, the first of them tells which side is faster.  The tracker takes the
player's speed for one end of the range of the opponent's, and it starts from the speeds of the slowest and the fastest
creature of the species.  `SpeedStep` says what one such turn can do to the range.  A speed that the creature can have
stays in the range as long as the order of the attacks fits it: `SpeedWithin.call` for a call and `SpeedWithin.run` for
a run.
-/

namespace Docsmith.Battle

/-- Whether two attacks have the same priority. -/
def samePriority (first second : Value) : Bool := Outcome.holds do
  let priority ← (← first.field "move").field "priority"
  let other ← (← second.field "move").field "priority"
  .ok (priority.same other)

/-- The attack that comes first, if a turn has two of the same priority. -/
def leadsIn (mine me turn : Value) : List Strike :=
  match attacksIn turn with
  | [first, second] => if samePriority first second then [⟨mine, me, first⟩] else []
  | _ => []

/-- The attacks of a call that come first. -/
def Call.leads (mine : Value) : Call → List Strike
  | .learn me turn => leadsIn mine me turn
  | _ => []

/-- The attacks of a run that come first, from the player's position at its start on. -/
def leads (mine : Value) : List Call → List Strike
  | [] => []
  | call :: calls => call.leads mine ++ leads (call.position mine) calls

namespace Strike

/-- Whether the order of the attacks fits a speed of the creature on the other side: it is at most as fast as the
player's if the player comes first, and else at least. -/
def permits (v : Value) (s : Strike) : Bool := Outcome.holds do
  let own ← s.view.speed
  if s.isMine then v.le own else own.le v

/-- The creature on the other side, by the name that the attack gives. -/
def rival (s : Strike) : Outcome Value := s.event.field (if s.isMine then "def_poke" else "atk_poke")

theorem foe_of_rival {s : Strike} {name : Value} (h : s.rival = .ok name) : s.foe = name.keyName := by
  rw [rival] at h
  rw [foe, h]
  rfl

end Strike

namespace Tracker

variable {rules : Rules} {me first second name : Value} {t t' : Tracker} {p key : String} {s : Strike}

/-- The range of the speed that a creature starts with, if nothing else is known. -/
def firstRange (rules : Rules) (name : Value) : Outcome (List Value) := do
  .ok [← speedOf rules name [] "brave", ← speedOf rules name [("evs", .record [("spe", .int 252)])] "jolly"]

theorem ensureSpeed_ok (h : (ensureSpeed rules name).apply t = (.ok key, t')) :
    name.keyName = .ok key ∧ ChangesOnly key ["spe"] t t' ∧ ∃ range, (t'.knowledge key).get? "spe" = some range ∧
      ((t.knowledge key).get? "spe" = some range ∨
        (t.knowledge key).get? "spe" = none ∧ firstRange rules name = .ok range) := by
  unfold ensureSpeed at h
  rw [Change.bind_eq_ok] at h
  obtain ⟨key', t₁, hroom, h⟩ := h
  rw [apply_ensureKnowledge] at hroom
  cases hkey : name.keyName with
  | error fault => simp [hkey] at hroom
  | ok key' =>
    rw [hkey] at hroom
    cases hroom
    have hroom := changesOnly_withRoom key' t
    rw [Change.get_bind_apply] at h
    split at h
    next hnew =>
      rw [Change.liftM_bind_eq_ok] at h
      obtain ⟨least, hleast, h⟩ := h
      rw [Change.liftM_bind_eq_ok] at h
      obtain ⟨greatest, hgreatest, h⟩ := h
      rw [Change.apply_bind_of_ok (apply_setStat _ _ _ _)] at h
      cases h
      refine ⟨rfl, (hroom.mono (by simp)).trans (changesOnly_withStat (by simp) _ _), [least, greatest], ?_,
        .inr ⟨?_, ?_⟩⟩
      · rw [knowledge_withStat, Fields.get?_put_self]
      · rw [← hroom.get?_of_not_mem (by simp) key]
        simpa [Fields.has] using hnew
      · simp [firstRange, hleast, hgreatest, bind, Except.bind]
    next hold =>
      cases h
      have hhas : Fields.has "spe" ((t.withRoom key).knowledge key) = true := by simpa using hold
      obtain ⟨range, hrange⟩ := Option.isSome_iff_exists.1 hhas
      refine ⟨rfl, hroom.mono (by simp), range, hrange, .inl ?_⟩
      rw [← hroom.get?_of_not_mem (by simp) key, hrange]

/-- One end of the range of the speed is compared with the player's speed and perhaps replaced. -/
def narrowEnd (key : String) (i : Nat) (isNarrower : Value → Value → Outcome Bool) : Change Tracker Unit := do
  let bound ← speedEnd key i
  let speed ← (← get).speed
  if ← isNarrower speed bound then setSpeedEnd key i speed

theorem narrowEnd_ok {i : Nat} {isNarrower : Value → Value → Outcome Bool}
    (h : (narrowEnd key i isNarrower).apply t = (.ok (), t')) :
    ChangesOnly key ["spe"] t t' ∧ ∃ range own bound narrower, (t.knowledge key).get? "spe" = some range ∧
      t.speed = .ok own ∧ range[i]? = some bound ∧ isNarrower own bound = .ok narrower ∧
      (t'.knowledge key).get? "spe" = some (if narrower then range.set i own else range) := by
  unfold narrowEnd speedEnd setSpeedEnd at h
  rw [bind_assoc, known_bind_eq_ok] at h
  obtain ⟨range, hrange, h⟩ := h
  cases hbound : range[i]? with
  | none => simp [hbound] at h
  | some bound =>
    simp only [hbound, pure_bind, Change.get_bind_apply, Change.liftM_bind_eq_ok] at h
    obtain ⟨own, hown, narrower, hnarrower, h⟩ := h
    cases narrower with
    | true =>
      rw [if_pos rfl] at h
      rw [known_bind_eq_ok] at h
      obtain ⟨range', hrange', h⟩ := h
      rw [hrange] at hrange'
      cases hrange'
      rw [changeStat_eq, apply_setStat] at h
      cases h
      refine ⟨changesOnly_withStat (by simp) _ _, range, own, bound, true, hrange, hown, hbound, hnarrower, ?_⟩
      rw [knowledge_withStat, Fields.get?_put_self, if_pos rfl]
    | false =>
      rw [if_neg Bool.false_ne_true] at h
      cases h
      exact ⟨.refl _ _ _, range, own, bound, false, hrange, hown, hbound, hnarrower, hrange⟩

/-- What the order of two attacks teaches about the speed of the creature on the other side. -/
structure SpeedStep (rules : Rules) (s : Strike) (p : String) (t t' : Tracker) : Prop where
  only : ChangesOnly p ["spe"] t t'
  narrowed : ∃ range own, ((t.knowledge p).get? "spe" = some range ∨
      ∃ name, name.keyName = .ok p ∧ firstRange rules name = .ok range) ∧ s.view.speed = .ok own ∧
    ((t'.knowledge p).get? "spe" = some range ∨
      (t'.knowledge p).get? "spe" = some (range.set (if s.isMine then 1 else 0) own))

theorem speed_congr (h : t'.mine = t.mine) : t'.speed = t.speed := by
  rw [speed, active, h]
  rfl

/-- Whether the player's speed narrows an end of the range: the upper end, if the player comes first. -/
def isNarrower (mineFirst : Bool) (speed bound : Value) : Outcome Bool :=
  if mineFirst then speed.lt bound else bound.lt speed

/-- The order of two attacks narrows the range of the creature on the other side. -/
def narrowSpeed (rules : Rules) (mineFirst : Bool) (name : Value) : Change Tracker Unit := do
  let key ← ensureSpeed rules name
  narrowEnd key (if mineFirst then 1 else 0) (isNarrower mineFirst)

private theorem speedStep_of_ok (hmine : s.mine = t.mine)
    (h : (narrowSpeed rules s.isMine name).apply t = (.ok (), t')) :
    ∃ p, name.keyName = .ok p ∧ SpeedStep rules s p t t' := by
  rw [narrowSpeed, Change.bind_eq_ok] at h
  obtain ⟨p, t₁, hensure, h⟩ := h
  obtain ⟨hkey, honly, range, hrange, hbefore⟩ := ensureSpeed_ok hensure
  obtain ⟨honly', range', own, bound, narrower, hrange', hown, -, -, hafter⟩ := narrowEnd_ok h
  rw [hrange] at hrange'
  cases hrange'
  refine ⟨p, hkey, honly.trans honly', range, own, hbefore.imp_right fun h => ⟨name, hkey, h.2⟩, ?_, ?_⟩
  · rw [← hown]
    exact speed_congr (hmine.trans honly.mine.symm)
  · rw [hafter]
    cases narrower with
    | true => exact .inr rfl
    | false => exact .inl rfl

theorem samePriority_eq {priority other : Value}
    (hfirst : (first.field "move" >>= fun move => move.field "priority") = .ok priority)
    (hsecond : (second.field "move" >>= fun move => move.field "priority") = .ok other) :
    samePriority first second = priority.same other := by
  obtain ⟨move, hmove, hfirst⟩ := Outcome.bind_eq_ok.1 hfirst
  obtain ⟨move', hmove', hsecond⟩ := Outcome.bind_eq_ok.1 hsecond
  simp [samePriority, hmove, hfirst, hmove', hsecond, bind, Except.bind, Outcome.holds]

/-- Two attacks of different priority teach nothing, and of two attacks of the same priority the first counts. -/
theorem learnSpeed_steps (h : (learnSpeed rules (.list [first, second]) me).apply t = (.ok (), t')) :
    let s : Strike := ⟨t.mine, me, first⟩
    samePriority first second = false ∧ t' = t ∨ samePriority first second = true ∧
      ∃ name, s.rival = .ok name ∧ (narrowSpeed rules s.isMine name).apply t = (.ok (), t') := by
  intro s
  have hfirst : (Value.list [first, second]).item (.int 0) = .ok first := rfl
  have hsecond : (Value.list [first, second]).item (.int 1) = .ok second := rfl
  unfold learnSpeed at h
  simp only [Change.liftM_bind_eq_ok, hfirst, hsecond] at h
  obtain ⟨priority, hpriority, other, hother, h⟩ := h
  rw [samePriority_eq hpriority hother]
  split at h
  next hdiffer =>
    cases h
    exact .inl ⟨by simpa using hdiffer, rfl⟩
  next hequal =>
    refine .inr ⟨by simpa using hequal, ?_⟩
    simp only [Change.liftM_bind_eq_ok, Except.ok.injEq, exists_eq_left'] at h
    obtain ⟨attacker, hattacker, player, hplayer, h⟩ := h
    have hmine : s.isMine = player.same me := Strike.isMine_eq hplayer
    rw [Strike.rival, hmine]
    cases hp : player.same me with
    | true =>
      simp only [hp, if_true, Change.liftM_bind_eq_ok] at h
      exact h
    | false =>
      simp only [hp, Bool.false_eq_true, if_false, pure_bind] at h
      exact ⟨attacker, hattacker, h⟩

private theorem learnSpeed_ok (h : (learnSpeed rules (.list [first, second]) me).apply t = (.ok (), t')) :
    t' = t ∨ samePriority first second = true ∧
      ∃ p, (⟨t.mine, me, first⟩ : Strike).foe = .ok p ∧ SpeedStep rules ⟨t.mine, me, first⟩ p t t' := by
  rcases learnSpeed_steps h with ⟨-, heq⟩ | ⟨hsame, name, hname, hnarrow⟩
  · exact .inl heq
  · obtain ⟨p, hkey, hstep⟩ := speedStep_of_ok (s := ⟨t.mine, me, first⟩) rfl hnarrow
    exact .inr ⟨hsame, p, (Strike.foe_of_rival hname).trans hkey, hstep⟩

private theorem learnOrder_ok {attacks : List Value} (h : (learnOrder rules me attacks).apply t = (.ok (), t')) :
    t' = t ∨ ∃ first second, attacks = [first, second] ∧
      (learnSpeed rules (.list [first, second]) me).apply t = (.ok (), t') := by
  unfold learnOrder at h
  rw [Change.liftM_bind_eq_ok] at h
  obtain ⟨switched, -, h⟩ := h
  split at h
  next htwo =>
    have hlength : attacks.length = 2 := by
      simp only [Bool.and_eq_true, beq_iff_eq] at htwo
      exact htwo.1
    obtain ⟨first, second, rfl⟩ := List.length_eq_two.1 hlength
    exact .inr ⟨first, second, rfl, h⟩
  next =>
    cases h
    exact .inl rfl

/-- The order of the strikes of a turn teaches what the first of them says. -/
private theorem learnOrder_lead {turn : Value}
    (h : (learnOrder rules me ((strikesIn t.mine me turn).map (·.event))).apply t = (.ok (), t')) :
    t' = t ∨ ∃ s ∈ leadsIn t.mine me turn, ∃ p, s.foe = .ok p ∧ SpeedStep rules s p t t' := by
  rcases learnOrder_ok h with heq | ⟨first, second, hevents, hspeed⟩
  · exact .inl heq
  rcases learnSpeed_ok hspeed with heq | ⟨hsame, p, hfoe, hstep⟩
  · exact .inl heq
  right
  rw [strikesIn_eq, List.map_map] at hevents
  have hlength : (attacksIn turn).length = 2 := by simpa using congrArg List.length hevents
  obtain ⟨e, e', hattacks⟩ := List.length_eq_two.1 hlength
  rw [hattacks, List.map_cons, List.map_singleton, List.cons.injEq, List.cons.injEq] at hevents
  obtain ⟨rfl, rfl, -⟩ := hevents
  -- the parts of the events that count are those that are not reduced
  refine ⟨⟨t.mine, me, e⟩, ?_, p, foe_reduceCritical t.mine me e ▸ hfoe, hstep.only, ?_⟩
  · have hmove : ∀ event : Value, (reduceCritical.apply event).2.field "move" = event.field "move" :=
      reduceCritical_keeps (by decide)
    have hsame' : samePriority e e' = true := by
      rw [← hsame]
      simp only [samePriority, Function.comp_apply, hmove]
    simp [leadsIn, hattacks, hsame']
  · rw [← isMine_reduceCritical]
    exact hstep.narrowed

end Tracker

section truth

variable {rules : Rules} {options : Fields Value} {made : Attributes} {b : ℕ} {p : String} {v name : Value}
  {range : List Value} {t t' : Tracker} {s : Strike}

/-- A range of the speed contains a speed. -/
def Covers (v : Value) (range : List Value) : Prop :=
  ∃ lo hi, range = [lo, hi] ∧ lo.le v = .ok true ∧ v.le hi = .ok true

/-- The range of the speed of a creature, if there is one, contains a speed. -/
def SpeedWithin (p : String) (v : Value) (t : Tracker) : Prop :=
  ∀ range, (t.knowledge p).get? "spe" = some range → Covers v range

private theorem SpeedWithin.congr (h : SpeedWithin p v t)
    (hsame : (t'.knowledge p).get? "spe" = (t.knowledge p).get? "spe") : SpeedWithin p v t' := by
  intro range hrange
  exact h range (by rw [← hsame, hrange])

private theorem eq_ok_of_holds {o : Outcome Bool} (h : o.holds = true) : o = .ok true := by
  cases o with
  | error e => cases h
  | ok b => exact congrArg Except.ok h

/-- An end of the range may be replaced by the player's speed, if the order of the attacks fits the speed. -/
private theorem Covers.set_own {own : Value} (h : Covers v range) (hpermits : s.permits v = true)
    (hown : s.view.speed = .ok own) : Covers v (range.set (if s.isMine then 1 else 0) own) := by
  obtain ⟨lo, hi, rfl, hlo, hhi⟩ := h
  have horder := eq_ok_of_holds hpermits
  rw [hown] at horder
  cases hmine : s.isMine with
  | true =>
    rw [hmine] at horder
    exact ⟨lo, own, rfl, hlo, horder⟩
  | false =>
    rw [hmine] at horder
    exact ⟨own, hi, rfl, horder, hhi⟩

private theorem SpeedWithin.speedStep {q : String} (h : SpeedWithin p v t)
    (hfirst : ∀ name range, name.keyName = .ok p → Tracker.firstRange rules name = .ok range → Covers v range)
    (hpermits : q = p → s.permits v = true) (hstep : Tracker.SpeedStep rules s q t t') : SpeedWithin p v t' := by
  by_cases hqp : q = p
  · subst hqp
    obtain ⟨range, own, hbefore, hown, hafter⟩ := hstep.narrowed
    have hcovers : Covers v range := by
      rcases hbefore with hbefore | ⟨name, hkey, hrange⟩
      · exact h range hbefore
      · exact hfirst name range hkey hrange
    intro range' hrange'
    rcases hafter with hafter | hafter
    · rw [hafter] at hrange'
      cases hrange'
      exact hcovers
    · rw [hafter] at hrange'
      cases hrange'
      exact hcovers.set_own (hpermits rfl) hown
  · exact h.congr (by rw [hstep.only.knowledge_of_ne (Ne.symm hqp)])

/-- Attacks teach nothing about the speed by their damage. -/
private theorem SpeedWithin.strike {me event : Value} (h : SpeedWithin p v t)
    (hlearn : (Tracker.learnEvent rules me event).apply t = (.ok (), t')) : SpeedWithin p v t' := by
  refine h.congr ?_
  rcases Tracker.learnEvent_cases hlearn with ⟨q, -, hstep⟩ | ⟨q, -, hstep⟩ | ⟨-, -, hinvestment⟩
  · refine hstep.only.get?_of_not_mem ?_ p
    have hne := (ne_of_mem_stats (Strike.defenceStat_mem ⟨t.mine, me, event⟩)).2
    simp [hne.symm]
  · refine hstep.only.get?_of_not_mem ?_ p
    have hne := (ne_of_mem_stats (Strike.attackStat_mem ⟨t.mine, me, event⟩)).2
    simp [hne.symm]
  · rw [Tracker.knowledge, Tracker.knowledge, hinvestment]

private theorem SpeedWithin.call {call : Call} (h : SpeedWithin p v t) (hlearning : call.isLearning = true)
    (hfirst : ∀ name range, name.keyName = .ok p → Tracker.firstRange rules name = .ok range → Covers v range)
    (htrue : ∀ s ∈ call.leads t.mine, s.foe = .ok p → s.permits v = true)
    (hcall : (call.perform rules).apply t = (.ok (), t')) : SpeedWithin p v t' := by
  cases call with
  | reset => cases hlearning
  | update mine theirs =>
    cases hcall
    exact h.congr rfl
  | initialise team active => cases hlearning
  | learn me turn =>
    obtain ⟨t₁, h₁, hmine, horder⟩ :=
      Tracker.learn_ok (P := fun _ => SpeedWithin p v) (fun h hlearn => h.strike hlearn) [] h hcall
    rw [← hmine] at horder htrue
    rcases Tracker.learnOrder_lead horder with rfl | ⟨s, hs, q, hfoe, hstep⟩
    · exact h₁
    · exact h₁.speedStep hfirst (fun hqp => htrue s hs (hqp ▸ hfoe)) hstep

private theorem speedOf_eq {effort : Fields Value} {nature : String} {n w : Value} (k : ℕ) (pace : Pace)
    (h : Tracker.speedOf rules name effort nature = .ok w) (hbase : baseStat rules name "spe" = .ok (.int b))
    (hn : rules.natures.get? nature = some n) (hpace : Pace.on "speed" n = .ok pace)
    (heffort : effort = [] ∧ k = 0 ∨ effort = [("evs", .record [("spe", .int k)])]) :
    w = .int (pace.speed (plainStat b (k / 4))) := by
  obtain ⟨made, hmade, hw⟩ := Outcome.bind_eq_ok.1 h
  have hlevel : IsHundred (Creature.levelOf
      ([("name", name), ("moves", .list [.text "tackle"]), ("nature", .text nature)] ++ effort)) b := by
    rcases heffort with ⟨rfl, -⟩ | rfl <;> exact .inl rfl
  obtain ⟨e, n', k', pace', he, hk, -, hn', hpace', hspeed⟩ := speed_of_make_hundred hmade rfl hbase hlevel
  have hk' : k' = k := by
    rcases heffort with ⟨rfl, rfl⟩ | rfl
    · have hzero : e = .int 0 := by
        simpa [Creature.effortIn, Creature.effortOf, Fields.get?, Value.getOr, Value.contains, Value.isKey, Fields.has,
          bind, Except.bind, eq_comm] using he
      rw [hzero, Value.int?] at hk
      simpa [eq_comm] using hk
    · have hsome : e = .int k := by
        simpa [Creature.effortIn, Creature.effortOf, Fields.get?, Value.getOr, Value.contains, Value.isKey, Fields.has,
          Value.item, Value.lookup, bind, Except.bind, eq_comm] using he
      rw [hsome, Value.int?] at hk
      simpa [eq_comm] using hk
  have hn'' : n = n' := by
    simpa [Creature.natureOf, Fields.get?, Value.lookup, hn] using hn'
  rw [← hn'', hpace, Except.ok.injEq] at hpace'
  rw [hw, Except.ok.injEq] at hspeed
  rw [hspeed, hpace', hk']

private theorem SpeedWithin.run {calls : List Call} (h : SpeedWithin p v t)
    (hlearning : ∀ call ∈ calls, call.isLearning = true)
    (hfirst : ∀ name range, name.keyName = .ok p → Tracker.firstRange rules name = .ok range → Covers v range)
    (htrue : ∀ s ∈ leads t.mine calls, s.foe = .ok p → s.permits v = true)
    (hrun : (run rules calls).apply t = (.ok (), t')) : SpeedWithin p v t' := by
  induction calls generalizing t with
  | nil =>
    cases hrun
    exact h
  | cons call calls ih =>
    rw [Battle.run, Change.bind_eq_ok] at hrun
    obtain ⟨_, t₁, hcall, hrest⟩ := hrun
    obtain ⟨hlearns, hlearning⟩ := List.forall_mem_cons.1 hlearning
    rw [leads, List.forall_mem_append] at htrue
    refine ih (h.call hlearns hfirst htrue.1 hcall) hlearning ?_ hrest
    rw [perform_mine hcall]
    exact htrue.2

/-- The range that a creature starts with contains the speed of every creature of its species at level 100. -/
private theorem covers_firstRange (hbrave : rules.natures.get? "brave" = some (Rules.natureEntry "attack" "speed"))
    (hjolly : rules.natures.get? "jolly" = some (Rules.natureEntry "speed" "sp_attack"))
    (hmade : Creature.make rules options = .ok made) (hname : options.get? "name" = some (.text p))
    (hbase : baseStat rules (.text p) "spe" = .ok (.int b)) (hlevel : IsHundred (Creature.levelOf options) b)
    (hspeed : (Value.creature made).attr "speed" = .ok v) (hkey : name.keyName = .ok p)
    (hrange : Tracker.firstRange rules name = .ok range) : Covers v range := by
  simp only [Tracker.firstRange, Outcome.bind_eq_ok] at hrange
  obtain ⟨least, hleast, greatest, hgreatest, hrange⟩ := hrange
  cases hrange
  -- a creature can only be made of a species that is named by a text
  obtain ⟨q, rfl⟩ : ∃ q, name = .text q := by
    obtain ⟨least', hmake, -⟩ := Outcome.bind_eq_ok.1 hleast
    obtain ⟨name', b', -, -, -, -, -, hname', hbase', -⟩ :=
      Creature.stat_of_make (show ("spe", "speed") ∈ statNames by decide) hmake
    cases hname'
    simp only [baseStat, Outcome.bind_eq_ok] at hbase'
    obtain ⟨entry, hlookup, -⟩ := hbase'
    obtain ⟨q, rfl, -⟩ := Value.lookup_eq_ok hlookup
    exact ⟨q, rfl⟩
  rw [Value.keyName_text, Except.ok.injEq] at hkey
  subst hkey
  obtain ⟨e, n, k, pace, -, -, hle, -, -, hspeed'⟩ := speed_of_make_hundred hmade hname hbase hlevel
  rw [hspeed] at hspeed'
  cases hspeed'
  obtain rfl := speedOf_eq 0 .slower hleast hbase hbrave rfl (.inl ⟨rfl, rfl⟩)
  obtain rfl := speedOf_eq 252 .faster hgreatest hbase hjolly rfl (.inr rfl)
  have hlow : Pace.slower.speed (plainStat b (0 / 4)) ≤ pace.speed (plainStat b (k / 4)) :=
    pace.floor_lowest_le_speed b (k / 4)
  have hhigh : pace.speed (plainStat b (k / 4)) ≤ Pace.faster.speed (plainStat b (252 / 4)) :=
    Int.le_floor.2 (pace.speed_le_highest b (by omega))
  refine ⟨_, _, rfl, ?_, ?_⟩
  · rw [Value.le_of_number? rfl rfl, decide_eq_true hlow]
  · rw [Value.le_of_number? rfl rfl, decide_eq_true hhigh]

/-- Learning from turns never rules out the speed of a creature at level 100, if the order of the attacks fits it. -/
theorem speed_never_ruled_out {calls : List Call}
    (hbrave : rules.natures.get? "brave" = some (Rules.natureEntry "attack" "speed"))
    (hjolly : rules.natures.get? "jolly" = some (Rules.natureEntry "speed" "sp_attack"))
    (hlearning : ∀ call ∈ calls, call.isLearning = true)
    (hrun : (run rules calls).apply Tracker.start = (.ok (), t))
    (hmade : Creature.make rules options = .ok made) (hname : options.get? "name" = some (.text p))
    (hbase : baseStat rules (.text p) "spe" = .ok (.int b)) (hlevel : IsHundred (Creature.levelOf options) b)
    (hspeed : (Value.creature made).attr "speed" = .ok v)
    (htrue : ∀ s ∈ leads Tracker.start.mine calls, s.foe = .ok p → s.permits v = true)
    (hrange : (t.knowledge p).get? "spe" = some range) :
    ∃ lo hi, range = [lo, hi] ∧ lo.le v = .ok true ∧ v.le hi = .ok true := by
  have hstart : SpeedWithin p v Tracker.start := by
    intro range hrange
    cases hrange
  have hfirst : ∀ name range, name.keyName = .ok p → Tracker.firstRange rules name = .ok range → Covers v range :=
    fun _ _ => covers_firstRange hbrave hjolly hmade hname hbase hlevel hspeed
  exact hstart.run hlearning hfirst htrue hrun range hrange

end truth

/-! ### A sample -/

namespace Sample

/-- A turn in which the opponent's creature comes before a player of the speed 300. -/
def duel : List Call :=
  [.update
    (.record [("active", .creature
      [("name", .text "spinda"), ("evs", .record [("atk", .int 252)]), ("increase_stat", .text "attack"),
       ("speed", .int 300)])])
    (.record [("active", foe)]),
   .learn (.text "me") (.list [theirs 60 false, mine true 48 false])]

/-- A fast opponent. -/
def fast : Fields Value :=
  [("name", .text "floatzel"), ("moves", .list [.text "tackle"]), ("evs", .record [("spe", .int 252)])]

end Sample

theorem sample_speed_never_ruled_out :
    ∃ t made v range, (run .standard Sample.duel).apply Tracker.start = (.ok (), t) ∧
      Creature.make .standard Sample.fast = .ok made ∧ (Value.creature made).attr "speed" = .ok v ∧
      (t.knowledge "floatzel").get? "spe" = some range ∧
      ∃ lo hi, range = [lo, hi] ∧ lo.le v = .ok true ∧ v.le hi = .ok true := by
  let t := ((run .standard Sample.duel).apply Tracker.start).2
  let made := (Creature.make .standard Sample.fast).toOption.getD []
  let v := ((Value.creature made).attr "speed").toOption.getD .null
  have hrun : (run .standard Sample.duel).apply Tracker.start = (.ok (), t) :=
    Change.apply_of_isOk (by decide +kernel)
  have hmade : Creature.make .standard Sample.fast = .ok made := Outcome.eq_ok_getD [] (by decide +kernel)
  have hspeed : (Value.creature made).attr "speed" = .ok v := Outcome.eq_ok_getD .null (by decide +kernel)
  have hsome : ((t.knowledge "floatzel").get? "spe").isSome = true := by decide +kernel
  obtain ⟨range, hrange⟩ := Option.isSome_iff_exists.1 hsome
  have htrue : ∀ s ∈ leads Tracker.start.mine Sample.duel, s.permits v = true := by decide +kernel
  exact ⟨t, made, v, range, hrun, hmade, hspeed, hrange,
    speed_never_ruled_out rfl rfl (by decide) hrun hmade rfl (b := 115) rfl (.inl rfl) hspeed
      (fun s hs _ => htrue s hs) hrange⟩

end Docsmith.Battle
