import Docsmith.Proofs.Battle.Order
import Docsmith.Proofs.Battle.Reachable
import Docsmith.Proofs.Battle.Sequence

/-!
# Turns with a switch

A switch is only looked for among the attacks of a turn, where there is none to be found.  So a turn with a switch
teaches the same as the turn without it, and its attacks tell which side is faster like any others
(`switch_makes_no_difference`).
-/

namespace Docsmith.Battle

variable {rules : Rules} {me first second name turn : Value} {t t' : Tracker} {p q key : String}

namespace Tracker

/-! ### The range that the order of attacks leads to -/

/-- The range of the speed of a creature: the one that is known, or else the one of its species. -/
def rangeOf (rules : Rules) (t : Tracker) (name : Value) : Outcome (List Value) := do
  match (t.knowledge (← name.keyName)).get? "spe" with
  | some range => .ok range
  | none => firstRange rules name

/-- A range with an end replaced by the player's speed if that is narrower: the upper end, if the player comes first. -/
def narrowedRange (mineFirst : Bool) (own : Value) (range : List Value) : Outcome (List Value) :=
  let i := if mineFirst then 1 else 0
  match range[i]? with
  | none => .error .badIndex
  | some bound => do if ← isNarrower mineFirst own bound then .ok (range.set i own) else .ok range

end Tracker

/-- The range of the speed of the creature on the other side, narrowed because the attack came first. -/
def Strike.narrowed (rules : Rules) (t : Tracker) (s : Strike) : Outcome (List Value) := do
  let range ← t.rangeOf rules (← s.rival)
  Tracker.narrowedRange s.isMine (← t.speed) range

namespace Tracker

private theorem narrowSpeed_ok {mineFirst : Bool} (h : (narrowSpeed rules mineFirst name).apply t = (.ok (), t')) :
    ∃ p before own range, name.keyName = .ok p ∧ t.rangeOf rules name = .ok before ∧ t.speed = .ok own ∧
      narrowedRange mineFirst own before = .ok range ∧ (t'.knowledge p).get? "spe" = some range := by
  rw [narrowSpeed, Change.bind_eq_ok] at h
  obtain ⟨p, u, hensure, h⟩ := h
  obtain ⟨hkey, honly, before, hrange, hbefore⟩ := ensureSpeed_ok hensure
  obtain ⟨-, before', own, bound, narrower, hrange', hown, hbound, hnarrower, hafter⟩ := narrowEnd_ok h
  obtain rfl : before = before' := by
    rw [hrange] at hrange'
    exact Option.some.inj hrange'
  refine ⟨p, before, own, _, hkey, ?_, (speed_congr honly.mine).symm.trans hown, ?_, hafter⟩
  · rcases hbefore with hknown | ⟨hnone, hfirst⟩
    · simp [rangeOf, hkey, hknown, bind, Except.bind]
    · simp [rangeOf, hkey, hnone, hfirst, bind, Except.bind]
  · simp only [narrowedRange, hbound, hnarrower]
    cases narrower <;> rfl

/-! ### Creatures that the order of attacks does not concern -/

private theorem setStat_others (h : q ≠ p) (stat : String) (vs : List Value) :
    (setStat p stat vs).Keeps fun t : Tracker => t.knowledge q :=
  fun t => (changesOnly_withStat (List.mem_singleton_self stat) vs t).knowledge_of_ne h

private theorem keyName_of_ensureKnowledge (h : (ensureKnowledge name).apply t = (.ok key, t')) :
    name.keyName = .ok key := by
  rw [apply_ensureKnowledge] at h
  rcases hkey : name.keyName with fault | key'
  · simp [hkey] at h
  · rw [hkey] at h
    cases h
    rfl

private theorem ensureKnowledge_others (h : name.keyName ≠ .ok q) :
    (ensureKnowledge name).Keeps fun t : Tracker => t.knowledge q := by
  intro t
  rw [apply_ensureKnowledge]
  rcases hkey : name.keyName with fault | key
  · rfl
  · refine (changesOnly_withRoom key t).knowledge_of_ne ?_
    rintro rfl
    exact h hkey

private theorem ensureSpeed_others (h : name.keyName ≠ .ok q) (rules : Rules) :
    (ensureSpeed rules name).Keeps fun t : Tracker => t.knowledge q := by
  refine (ensureKnowledge_others h).bind_of_ok fun key u u' hensure => Change.keeps_get.bind fun t => ?_
  have hne : q ≠ key := by
    rintro rfl
    exact h (keyName_of_ensureKnowledge hensure)
  refine Change.Keeps.ite ?_ (Change.keeps_pure key)
  refine (Change.keeps_liftM _).bind fun least => (Change.keeps_liftM _).bind fun greatest => ?_
  exact (setStat_others hne "spe" [least, greatest]).bind fun _ => Change.keeps_pure key

private theorem narrowSpeed_others (h : name.keyName ≠ .ok q) (rules : Rules) (mineFirst : Bool) :
    (narrowSpeed rules mineFirst name).Keeps fun t : Tracker => t.knowledge q := by
  refine (ensureSpeed_others h rules).bind_of_ok fun key u u' hensure => ?_
  have hne : q ≠ key := by
    rintro rfl
    exact h (ensureSpeed_ok hensure).1
  refine (speedEnd_spares _ key _).bind fun bound => Change.keeps_get.bind fun t => ?_
  refine (Change.keeps_liftM _).bind fun speed => (Change.keeps_liftM _).bind fun narrower => ?_
  refine Change.Keeps.ite ?_ (Change.keeps_pure ())
  exact (known_spares _ key "spe").bind fun range => setStat_others hne "spe" _

/-- The order of two attacks concerns the creature on the other side of the first, if they have the same priority. -/
private theorem learnSpeed_others (mine : Value)
    (h : samePriority first second = true → (⟨mine, me, first⟩ : Strike).foe ≠ .ok q) :
    (learnSpeed rules (.list [first, second]) me).Keeps fun t : Tracker => t.knowledge q := by
  have hfirst : (Value.list [first, second]).item (.int 0) = .ok first := rfl
  have hsecond : (Value.list [first, second]).item (.int 1) = .ok second := rfl
  unfold learnSpeed
  simp only [hfirst, hsecond]
  refine Change.keeps_liftM_bind fun priority hpriority => Change.keeps_liftM_bind fun other hother => ?_
  split
  next => exact Change.keeps_pure ()
  next hequal =>
    have hfoe := h (by rw [samePriority_eq hpriority hother]; simpa using hequal)
    refine Change.keeps_liftM_bind fun strike hstrike => ?_
    cases hstrike
    refine Change.keeps_liftM_bind fun attacker hattacker => Change.keeps_liftM_bind fun player hplayer => ?_
    have hmine : (⟨mine, me, first⟩ : Strike).isMine = player.same me := Strike.isMine_eq hplayer
    have hrival : ∀ name, first.field (if player.same me then "def_poke" else "atk_poke") = .ok name →
        name.keyName ≠ .ok q := by
      intro name hname
      rwa [← Strike.foe_of_rival (s := ⟨mine, me, first⟩) (by rw [Strike.rival, hmine]; exact hname)]
    cases hp : player.same me with
    | true =>
      rw [hp] at hrival
      exact Change.keeps_liftM_bind fun name hname => narrowSpeed_others (hrival name hname) rules true
    | false =>
      rw [hp] at hrival
      exact narrowSpeed_others (hrival attacker hattacker) rules false

/-! ### Turns -/

private theorem samePriority_reduced (first second : Value) :
    samePriority (reduced first) (reduced second) = samePriority first second := by
  have hmove : ∀ e : Value, (reduced e).field "move" = e.field "move" := field_reduced (by decide)
  simp only [samePriority, hmove]

end Tracker

private theorem mem_leadsIn {mine me turn : Value} {s : Strike} :
    s ∈ leadsIn mine me turn ↔
      ∃ first second, attacksIn turn = [first, second] ∧ samePriority first second = true ∧ s = ⟨mine, me, first⟩ := by
  unfold leadsIn
  split
  next first second hattacks =>
    rw [hattacks]
    constructor
    · intro hs
      split at hs
      next hsame => exact ⟨first, second, rfl, hsame, List.mem_singleton.1 hs⟩
      next => cases hs
    · rintro ⟨first', second', heq, hsame, rfl⟩
      cases heq
      rw [if_pos hsame]
      exact List.mem_singleton_self _
  next hother =>
    constructor
    · intro hs
      cases hs
    · rintro ⟨first, second, hattacks, -⟩
      exact absurd hattacks (hother first second)

namespace Tracker

/-- The player's position and the ranges of the speed are what the order of attacks is compared with. -/
def speeds (t : Tracker) : Value × (String → Option (List Value)) := (t.mine, fun q => (t.knowledge q).get? "spe")

/-- Attacks teach nothing about the speed by their damage, whether learning from them succeeds or not. -/
private theorem learnAttack_speeds (rules : Rules) (me event : Value) : (learnAttack rules me event).Keeps speeds := by
  have hignores : Ignores ["atk", "def", "spa", "spd", "hp"] speeds := by
    have hranges : Ignores ["atk", "def", "spa", "spd", "hp"] fun t q => (t.knowledge q).get? "spe" :=
      ignores_get? (by decide)
    refine ⟨fun stat hstat p vs t => ?_, fun p t => ?_⟩
    · exact Prod.ext rfl (hranges.stat stat hstat p vs t)
    · exact Prod.ext (changesOnly_withRoom p t).mine (hranges.room p t)
  refine (Change.keeps_liftM _).bind fun _ => ?_
  exact learnEvent_spares hignores (learnMove_spares (fun _ _ => rfl) (reduced event))

/-- Whatever the outcome of a turn, only the creature on the other side of the attack that comes first can have another
range of the speed afterwards. -/
private theorem learnTurn_others (rules : Rules) (mine : Value) (h : ∀ s ∈ leadsIn mine me turn, s.foe ≠ .ok q)
    (t : Tracker) : ((learnTurn rules me turn t).2.2.knowledge q).get? "spe" = (t.knowledge q).get? "spe" := by
  have hattack : ∀ event, (learnAttack rules me event).Keeps fun t : Tracker => (t.knowledge q).get? "spe" :=
    fun event u => congrFun (congrArg Prod.snd (learnAttack_speeds rules me event u)) q
  have horder : (learnOrder rules me ((attacksIn turn).map reduced)).Keeps
      fun t : Tracker => (t.knowledge q).get? "spe" := by
    rw [learnOrder_of_attacks fun e he => isAttack_of_mem_reduced he]
    split
    next htwo =>
      rw [List.length_map] at htwo
      obtain ⟨first, second, hpair⟩ := List.length_eq_two.1 htwo
      have hfoe : (⟨mine, me, reduced first⟩ : Strike).foe = (⟨mine, me, first⟩ : Strike).foe :=
        foe_reduceCritical mine me first
      rw [hpair]
      intro u
      refine congrArg (Fields.get? "spe") (learnSpeed_others mine (fun hsame => ?_) u)
      rw [samePriority_reduced] at hsame
      rw [hfoe]
      exact h _ (mem_leadsIn.2 ⟨first, second, hpair, hsame, rfl⟩)
    next => exact Change.keeps_pure ()
  have hturn : ((liftM (sifted turn) : Change Tracker (List Value)) >>= learnAttacks rules me).Keeps
      fun t => (t.knowledge q).get? "spe" := by
    refine Change.keeps_liftM_bind fun attacks hattacks => ?_
    obtain rfl := attacksIn_of_sifted hattacks
    exact (Change.keeps_forM fun event _ => hattack event).bind fun _ => horder
  rw [learnTurn_eq]
  exact hturn t

end Tracker

private theorem Strike.narrowed_congr {rules : Rules} {t t' : Tracker} (h : t'.speeds = t.speeds) (s : Strike) :
    s.narrowed rules t' = s.narrowed rules t := by
  obtain ⟨hmine, hranges⟩ := Prod.mk.injEq _ _ _ _ ▸ h
  have hrange : ∀ p, (t'.knowledge p).get? "spe" = (t.knowledge p).get? "spe" := congrFun hranges
  simp only [Strike.narrowed, Tracker.rangeOf, hrange, Tracker.speed_congr hmine]

private theorem Strike.narrowed_reduced (rules : Rules) (t : Tracker) (mine me event : Value) :
    (⟨mine, me, Tracker.reduced event⟩ : Strike).narrowed rules t = (⟨mine, me, event⟩ : Strike).narrowed rules t := by
  have hmine : (⟨mine, me, Tracker.reduced event⟩ : Strike).isMine = (⟨mine, me, event⟩ : Strike).isMine :=
    Tracker.isMine_reduceCritical mine me event
  have hrival : (⟨mine, me, Tracker.reduced event⟩ : Strike).rival = (⟨mine, me, event⟩ : Strike).rival := by
    rw [rival, rival, hmine]
    exact Tracker.field_reduced (by split <;> decide) event
  rw [narrowed, narrowed, hmine, hrival]

namespace Tracker

private theorem learnSpeed_narrowed (hsame : samePriority first second = true)
    (h : (learnSpeed rules (.list [first, second]) me).apply t = (.ok (), t')) :
    ∃ p range, (⟨t.mine, me, first⟩ : Strike).foe = .ok p ∧
      (⟨t.mine, me, first⟩ : Strike).narrowed rules t = .ok range ∧ (t'.knowledge p).get? "spe" = some range := by
  rcases learnSpeed_steps h with ⟨hdiffer, -⟩ | ⟨-, name, hname, hnarrow⟩
  · rw [hsame] at hdiffer
    cases hdiffer
  · obtain ⟨p, before, own, range, hkey, hbefore, hown, hrange, hafter⟩ := narrowSpeed_ok hnarrow
    refine ⟨p, range, (Strike.foe_of_rival hname).trans hkey, ?_, hafter⟩
    simp only [Strike.narrowed, Outcome.bind_eq_ok]
    exact ⟨name, hname, before, hbefore, own, hown, hrange⟩

/-- If a turn is learned from without a fault, the range of the creature on the other side of the attack that comes
first is narrowed. -/
private theorem learnTurn_lead {s : Strike} (hs : s ∈ leadsIn t.mine me turn)
    (h : (learnTurn rules me turn t).2 = (.ok (), t')) :
    ∃ p range, s.foe = .ok p ∧ s.narrowed rules t = .ok range ∧ (t'.knowledge p).get? "spe" = some range := by
  obtain ⟨first, second, hpair, hsame, rfl⟩ := mem_leadsIn.1 hs
  rw [learnTurn_eq, Change.liftM_bind_eq_ok] at h
  obtain ⟨attacks, hattacks, h⟩ := h
  obtain rfl := attacksIn_of_sifted hattacks
  rw [learnAttacks, Change.bind_eq_ok] at h
  obtain ⟨_, u, hlearn, horder⟩ := h
  have hkeeps : ((attacksIn turn).forM (learnAttack rules me)).Keeps speeds :=
    Change.keeps_forM fun event _ => learnAttack_speeds rules me event
  have hspeeds : u.speeds = t.speeds := by
    rw [← hkeeps t, hlearn]
  have hmine : u.mine = t.mine := congrArg Prod.fst hspeeds
  rw [learnOrder_of_attacks fun e he => isAttack_of_mem_reduced he, hpair,
    if_pos (show (List.map reduced [first, second]).length = 2 from rfl)] at horder
  rw [← samePriority_reduced] at hsame
  obtain ⟨p, range, hfoe, hrange, hafter⟩ := learnSpeed_narrowed hsame horder
  rw [hmine, Strike.narrowed_reduced, Strike.narrowed_congr hspeeds] at hrange
  rw [hmine] at hfoe
  exact ⟨p, range, (foe_reduceCritical t.mine me first).symm.trans hfoe, hrange, hafter⟩

/-! ### Switches -/

private theorem isAttack_of_isSwitch {event : Value} (h : isSwitch event = .ok true) : isAttack event = .ok false := by
  obtain ⟨kind, hkind, hswitch⟩ := Outcome.bind_eq_ok.1 h
  rw [Except.ok.injEq] at hswitch
  have hkind' : kind = .text "SWITCH" := by
    cases kind <;> simp_all [Value.isText]
  rw [isAttack, hkind, hkind']
  rfl

private theorem sifted_switch {switch : Value} (h : isSwitch switch = .ok true) (before after : List Value) :
    sifted (.list (before ++ switch :: after)) = sifted (.list (before ++ after)) := by
  induction before with
  | nil =>
    rw [List.nil_append, List.nil_append, sifted_cons, isAttack_of_isSwitch h]
    rcases sifted (.list after) with fault | rest <;> rfl
  | cons event before ih => rw [List.cons_append, List.cons_append, sifted_cons, sifted_cons, ih]

end Tracker

/-- A switch makes no difference to what a turn teaches.  With switches or without, only the creature on the other side
of the first attack can have another range of the speed afterwards, if there are just two attacks and these have the
same priority; and if the turn is learned from without a fault, its range is narrowed by the player's speed. -/
theorem switch_makes_no_difference (rules : Rules) (me turn : Value) (t : Tracker) :
    (∀ before switch after, Tracker.isSwitch switch = .ok true →
      (Tracker.learnTurn rules me (.list (before ++ switch :: after)) t).2 =
        (Tracker.learnTurn rules me (.list (before ++ after)) t).2) ∧
    (∀ q, (∀ s ∈ leadsIn t.mine me turn, s.foe ≠ .ok q) →
      ((Tracker.learnTurn rules me turn t).2.2.knowledge q).get? "spe" = (t.knowledge q).get? "spe") ∧
    ∀ s ∈ leadsIn t.mine me turn, (Tracker.learnTurn rules me turn t).2.1 = .ok () →
      ∃ p range, s.foe = .ok p ∧ s.narrowed rules t = .ok range ∧
        ((Tracker.learnTurn rules me turn t).2.2.knowledge p).get? "spe" = some range := by
  refine ⟨fun before switch after hswitch => ?_, fun q hq => Tracker.learnTurn_others rules t.mine hq t, ?_⟩
  · rw [Tracker.learnTurn_eq, Tracker.learnTurn_eq, Tracker.sifted_switch hswitch]
  · intro s hs hok
    exact Tracker.learnTurn_lead hs (Prod.ext hok rfl)

namespace Sample

/-- The tracker that has taken note of a player of the speed 300. -/
def outpaced : Tracker := ((run Rules.standard (duel.take 1)).apply Tracker.start).2

/-- The opponent exchanges its creature. -/
def switch : Value :=
  .record
    [("type", .text "SWITCH"), ("player", .text "you"), ("old_active", .text "ivysaur"),
     ("new_active", .text "floatzel")]

/-- The events of a turn with a switch, in which the opponent's creature comes before the player. -/
def switchEvents : List Value := [switch, theirs 60 false, mine true 48 false]

end Sample

/-- A turn with a switch teaches that the opponent's creature is at least as fast as the player. -/
theorem speed_learned_with_switch :
    Reachable .standard Sample.outpaced ∧ Tracker.isSwitch Sample.switch = .ok true ∧
    Sample.switch ∈ Sample.switchEvents ∧ (Sample.outpaced.knowledge "floatzel").get? "spe" = none ∧
    ∃ t' range,
      (Tracker.learnTurn .standard (.text "me") (.list Sample.switchEvents) Sample.outpaced).2 = (.ok (), t') ∧
      (t'.knowledge "floatzel").get? "spe" = some range ∧ range.map Value.int? = [some 300, some 361] := by
  have hreachable : Reachable .standard Sample.outpaced := Reachable.start.run _
  have hevaluated : ((Sample.outpaced.knowledge "floatzel").get? "spe").isNone = true ∧
      (Tracker.learnTurn .standard (.text "me") (.list Sample.switchEvents) Sample.outpaced).2.1.isOk = true ∧
      (((Tracker.learnTurn .standard (.text "me") (.list Sample.switchEvents) Sample.outpaced).2.2.knowledge
        "floatzel").get? "spe").map (List.map Value.int?) = some [some 300, some 361] := by
    decide +kernel
  obtain ⟨hnone, hok, hafter⟩ := hevaluated
  obtain ⟨range, hrange, hends⟩ := Option.map_eq_some_iff.1 hafter
  rcases hturn : (Tracker.learnTurn .standard (.text "me") (.list Sample.switchEvents) Sample.outpaced).2 with ⟨o, t'⟩
  rw [hturn] at hok hrange
  obtain rfl := Outcome.eq_ok_of_isOk hok
  exact ⟨hreachable, rfl, List.mem_cons_self, Option.isNone_iff_eq_none.1 hnone, t', range, rfl, hrange, hends⟩

end Docsmith.Battle
