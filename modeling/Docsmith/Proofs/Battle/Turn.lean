import Docsmith.Proofs.Battle.Frame

/-!
# What a call teaches

A turn that is learned from without a fault is a sequence of strikes, one after the other, and then at most one
conclusion about the speed.  `learnEvent_cases` says what a strike can do, `learnTurn_induction` carries a property from
strike to strike, and `run_induction` from call to call.
-/

namespace Docsmith.Battle

namespace Tracker

variable {rules : Rules} {me event : Value} {t t' : Tracker} {p q stat : String}

/-! ### One strike -/

/-- Taking note of a move leaves the player's position and the investments alone. -/
theorem learnMove_keeps (event : Value) : (learnMove event).Keeps fun t : Tracker => (t.mine, t.investment) :=
  learnMove_spares (fun _ _ => rfl) event

private theorem learnMove_ok (h : (learnMove event).apply t = (.ok (), t')) :
    t'.mine = t.mine ∧ t'.investment = t.investment := by
  have hkeeps := learnMove_keeps event t
  rw [h, Prod.mk.injEq] at hkeeps
  exact hkeeps

theorem AttackStep.of_eq {ways : List (Bool × Bool)} {t'' : Tracker} (h : AttackStep p stat ways t t')
    (hmine : t''.mine = t'.mine) (hinvestment : t''.investment = t'.investment) : AttackStep p stat ways t t'' := by
  have hknowledge : t''.knowledge p = t'.knowledge p := by rw [knowledge, knowledge, hinvestment]
  refine ⟨⟨hmine.trans h.only.mine, ?_, ?_⟩, ?_, ?_⟩
  · rw [hinvestment]
    exact h.only.others
  · rw [hknowledge]
    exact h.only.rest
  · rw [hknowledge]
    exact h.first
  · rw [hknowledge]
    exact h.again

/-- What a strike can do: nothing about the opponent's creatures unless it hits. -/
theorem learnEvent_cases (h : (learnEvent rules me event).apply t = (.ok (), t')) :
    let s : Strike := ⟨t.mine, me, event⟩
    (∃ p, s.landsOn p = true ∧ DefenceStep p s.defenceStat (s.defences rules) t t') ∨
    (∃ p, s.comesFrom p = true ∧ AttackStep p s.attackStat (s.attacks rules) t t') ∨
    (s.hits = false ∧ t'.mine = t.mine ∧ t'.investment = t.investment) := by
  intro s
  unfold learnEvent at h
  rw [Change.liftM_bind_eq_ok] at h
  obtain ⟨attacker, hattacker, h⟩ := h
  rw [Change.liftM_bind_eq_ok] at h
  obtain ⟨hitting, hhitting, h⟩ := h
  have hmine : s.isMine = attacker.same me := Strike.isMine_eq hattacker
  have hhits : s.hits = hitting.truthy := by
    simp [s, Strike.hits, hhitting, bind, Except.bind, Outcome.holds]
  simp only [← hmine, ← hhits] at h
  cases hh : s.hits with
  | false =>
    right; right
    rw [hh] at h
    cases hm : s.isMine with
    | true =>
      simp only [hm, if_true, Bool.false_eq_true, if_false, Change.apply_pure, Prod.mk.injEq, true_and] at h
      subst h
      exact ⟨rfl, rfl, rfl⟩
    | false =>
      simp only [hm, Bool.false_eq_true, if_false] at h
      exact ⟨rfl, learnMove_ok h⟩
  | true =>
    rw [hh] at h
    cases hm : s.isMine with
    | true =>
      left
      simp only [hm, if_true, Change.get_bind_apply, Change.liftM_bind_eq_ok] at h
      obtain ⟨rs, hrs, h⟩ := h
      obtain ⟨⟨p, hp⟩, -, -⟩ := ranges_ok hrs
      refine ⟨p, ?_, learnAttacking_ok hp ?_ h⟩
      · simp [Strike.landsOn, hh, hm, s, hp, bind, Except.bind, Outcome.holds, Value.isText]
      · rw [← hrs]
        exact rangesAttacking_congr rfl
    | false =>
      right; left
      simp only [hm, Bool.false_eq_true, if_false, if_true, Change.get_bind_apply, Change.liftM_bind_eq_ok] at h
      obtain ⟨rs, hrs, h⟩ := h
      rw [Change.bind_eq_ok] at h
      obtain ⟨_, t₁, hlearn, hmove⟩ := h
      obtain ⟨hmine', hinv⟩ := learnMove_ok hmove
      obtain ⟨-, ⟨p, hp⟩, -⟩ := ranges_ok hrs
      have hstep : AttackStep p s.attackStat (s.attacks rules) t t₁ := by
        refine learnDefending_ok hp ?_ hlearn
        rw [← hrs]
        exact rangesDefending_congr rfl
      refine ⟨p, ?_, ?_⟩
      · simp [Strike.comesFrom, hh, hm, s, hp, bind, Except.bind, Outcome.holds, Value.isText]
      · exact hstep.of_eq hmine' hinv

/-! ### The order of two strikes -/

/-- What a tracker holds besides the ranges of the speed. -/
def besidesSpeed (t : Tracker) : Value × (String → String → Option (List Value)) :=
  (t.mine, fun q stat => if stat = "spe" then none else (t.knowledge q).get? stat)

private theorem ChangesOnly.besidesSpeed (h : ChangesOnly p ["spe"] t t') : t'.besidesSpeed = t.besidesSpeed := by
  unfold Tracker.besidesSpeed
  rw [h.mine, Prod.mk.injEq]
  refine ⟨rfl, ?_⟩
  funext q stat
  split
  · rfl
  · next hstat => exact h.get?_of_not_mem (by simpa using hstat) q

theorem get?_of_besidesSpeed (h : t'.besidesSpeed = t.besidesSpeed) (q : String) (hstat : stat ≠ "spe") :
    (t'.knowledge q).get? stat = (t.knowledge q).get? stat := by
  have hget := congrFun (congrFun (congrArg Prod.snd h) q) stat
  simpa [besidesSpeed, hstat] using hget

private theorem ignores_besidesSpeed : Ignores ["spe"] besidesSpeed where
  stat _ hstat _ vs t := (changesOnly_withStat hstat vs t).besidesSpeed
  room p t := ((changesOnly_withRoom p t).mono (by simp)).besidesSpeed

/-- The order of strikes teaches about the speed and about nothing else. -/
theorem learnOrder_keeps (rules : Rules) (me : Value) (attacks : List Value) :
    (learnOrder rules me attacks).Keeps besidesSpeed :=
  learnOrder_spares ignores_besidesSpeed rules me attacks

/-! ### A turn -/

/-- Reducing a part of an event leaves alone what does not depend on that part. -/
private theorem reducePart_spares {τ : Type} {look : Value → τ} {part : String}
    (h : ∀ w fields, look (.record (Fields.put part w fields)) = look (.record fields)) :
    (reducePart part).Keeps look := by
  intro event
  unfold reducePart
  rw [Change.get_bind_apply, Change.apply_bind, Change.apply_liftM]
  cases event.field part with
  | error fault => rfl
  | ok v =>
    simp only [Change.apply_bind, Change.apply_liftM]
    cases twoThirds v with
    | error fault => rfl
    | ok w =>
      cases event with
      | record fields => exact h w fields
      | _ => rfl

theorem reduceCritical_spares {τ : Type} {look : Value → τ}
    (h : ∀ part ∈ ["damage", "pct_damage"], ∀ w fields,
      look (.record (Fields.put part w fields)) = look (.record fields)) :
    reduceCritical.Keeps look := by
  refine Change.keeps_get.bind fun event => (Change.keeps_liftM _).bind fun critical => ?_
  refine Change.Keeps.ite ((Change.keeps_liftM _).bind fun v => ?_) (Change.keeps_pure ())
  refine Change.Keeps.ite ?_ (Change.keeps_pure ())
  exact (reducePart_spares (h "damage" (by simp))).bind fun _ => reducePart_spares (h "pct_damage" (by simp))

theorem reduceCritical_keeps {field : String} (h : field ∉ ["damage", "pct_damage"]) :
    reduceCritical.Keeps fun e => e.field field := by
  refine reduceCritical_spares fun part hpart w fields => ?_
  have hne : field ≠ part := fun heq => h (heq ▸ hpart)
  simp [Value.field, Value.item, Value.lookup, hne]

theorem isMine_reduceCritical (mine me event : Value) :
    (⟨mine, me, (reduceCritical.apply event).2⟩ : Strike).isMine = (⟨mine, me, event⟩ : Strike).isMine := by
  have hattacker : (reduceCritical.apply event).2.field "attacker" = event.field "attacker" :=
    reduceCritical_keeps (by decide) event
  simp only [Strike.isMine, hattacker]

/-- Who is on the other side does not depend on the damage. -/
theorem foe_reduceCritical (mine me event : Value) :
    (⟨mine, me, (reduceCritical.apply event).2⟩ : Strike).foe = (⟨mine, me, event⟩ : Strike).foe := by
  have hfield : ∀ name ∈ ["def_poke", "atk_poke"], (reduceCritical.apply event).2.field name = event.field name := by
    intro name hname
    refine reduceCritical_keeps ?_ event
    simp only [List.mem_cons, List.not_mem_nil, or_false] at hname
    rcases hname with rfl | rfl <;> decide
  simp only [Strike.foe, isMine_reduceCritical]
  split <;> rw [hfield _ (by decide)]

theorem strikesIn_eq (mine me turn : Value) :
    strikesIn mine me turn = (attacksIn turn).map fun e => ⟨mine, me, (reduceCritical.apply e).2⟩ := by
  unfold strikesIn attacksIn
  cases turn.elements <;> rfl

private theorem learnEvent_mine (h : (learnEvent rules me event).apply t = (.ok (), t')) : t'.mine = t.mine := by
  rcases learnEvent_cases h with ⟨p, -, hstep⟩ | ⟨p, -, hstep⟩ | ⟨-, hmine, -⟩
  · exact hstep.only.mine
  · exact hstep.only.mine
  · exact hmine

/-- What each strike preserves is preserved by the strikes of a turn. -/
private theorem learnEvents_induction {P : List Strike → Tracker → Prop}
    (hstrike : ∀ {seen t t' event}, P seen t → (learnEvent rules me event).apply t = (.ok (), t') →
      P (seen ++ [⟨t.mine, me, event⟩]) t')
    {marked : List (Bool × Value)} {seen : List Strike} {events : List Value} (hP : P seen t)
    (h : learnEvents rules me marked t = (events, .ok (), t')) :
    P (seen ++ (marked.filter (·.1)).map fun e => ⟨t.mine, me, (reduceCritical.apply e.2).2⟩) t' ∧
      t'.mine = t.mine := by
  induction marked generalizing seen t events with
  | nil =>
    rw [learnEvents, Prod.mk.injEq, Prod.mk.injEq] at h
    obtain ⟨-, -, rfl⟩ := h
    simpa using hP
  | cons e marked ih =>
    obtain ⟨mark, event⟩ := e
    cases mark with
    | false =>
      rcases hrest : learnEvents rules me marked t with ⟨rest, outcome, t₁⟩
      rw [learnEvents, hrest, Prod.mk.injEq, Prod.mk.injEq] at h
      obtain ⟨-, rfl, rfl⟩ := h
      exact ih hP hrest
    | true =>
      rcases hreduce : reduceCritical.apply event with ⟨outcome | _, event'⟩
      · simp [learnEvents, hreduce] at h
      rcases hlearn : (learnEvent rules me event').apply t with ⟨outcome | _, t₁⟩
      · simp [learnEvents, hreduce, hlearn] at h
      rcases hrest : learnEvents rules me marked t₁ with ⟨rest, outcome, t₂⟩
      simp only [learnEvents, hreduce, hlearn, hrest, Prod.mk.injEq] at h
      obtain ⟨-, rfl, rfl⟩ := h
      have hmine := learnEvent_mine hlearn
      obtain ⟨hP', hmine'⟩ := ih (hstrike hP hlearn) hrest
      refine ⟨?_, hmine'.trans hmine⟩
      rw [hmine] at hP'
      simpa [hreduce] using hP'

/-- The marked events are those that are attacks. -/
theorem filter_marks {events : List Value} {marks : List Bool} (h : events.mapM isAttack = .ok marks) :
    ((marks.zip events).filter (·.1)).map (·.2) = events.filter fun e => (isAttack e).holds := by
  induction events generalizing marks with
  | nil => simp
  | cons e events ih =>
    rw [List.mapM_cons, Outcome.bind_eq_ok] at h
    obtain ⟨mark, hmark, h⟩ := h
    rw [Outcome.bind_eq_ok] at h
    obtain ⟨rest, hrest, h⟩ := h
    cases h
    rw [List.zip_cons_cons, List.filter_cons, List.filter_cons, hmark, ← ih hrest]
    cases mark <;> rfl

/-- The marked events are returned with their damage reduced, and the others as they are. -/
theorem learnEvents_events {marked : List (Bool × Value)} {events : List Value}
    (h : learnEvents rules me marked t = (events, .ok (), t')) :
    events = marked.map fun e => if e.1 then (reduceCritical.apply e.2).2 else e.2 := by
  induction marked generalizing t t' events with
  | nil =>
    cases h
    rfl
  | cons e marked ih =>
    obtain ⟨mark, event⟩ := e
    cases mark with
    | false =>
      rcases hrest : learnEvents rules me marked t with ⟨rest, outcome, t₁⟩
      rw [learnEvents, hrest, Prod.mk.injEq, Prod.mk.injEq] at h
      obtain ⟨rfl, rfl, -⟩ := h
      rw [ih hrest]
      rfl
    | true =>
      rcases hreduce : reduceCritical.apply event with ⟨outcome | _, event'⟩
      · simp [learnEvents, hreduce] at h
      rcases hlearn : (learnEvent rules me event').apply t with ⟨outcome | _, t₁⟩
      · simp [learnEvents, hreduce, hlearn] at h
      rcases hrest : learnEvents rules me marked t₁ with ⟨rest, outcome, t₂⟩
      simp only [learnEvents, hreduce, hlearn, hrest, Prod.mk.injEq] at h
      obtain ⟨rfl, rfl, -⟩ := h
      rw [ih hrest, List.map_cons, if_pos rfl, hreduce]

/-- The marked events that are returned are those that the strikes were learned from. -/
theorem attacksOf_learnEvents {marked : List (Bool × Value)} {events : List Value}
    (h : learnEvents rules me marked t = (events, .ok (), t')) :
    attacksOf (marked.map (·.1)) events = (marked.filter (·.1)).map fun e => (reduceCritical.apply e.2).2 := by
  rw [learnEvents_events h]
  clear h
  induction marked with
  | nil => rfl
  | cons e marked ih =>
    obtain ⟨mark, event⟩ := e
    rw [attacksOf] at ih
    cases mark <;> simp [attacksOf, ih]

/-- A turn that is learned from is its strikes, one after the other, and then the order of their events. -/
theorem learn_ok {P : List Strike → Tracker → Prop}
    (hstrike : ∀ {seen t t' event}, P seen t → (learnEvent rules me event).apply t = (.ok (), t') →
      P (seen ++ [⟨t.mine, me, event⟩]) t')
    (seen : List Strike) {turn : Value} (hP : P seen t)
    (hcall : ((Call.learn me turn).perform rules).apply t = (.ok (), t')) :
    ∃ t₁, P (seen ++ strikesIn t.mine me turn) t₁ ∧ t₁.mine = t.mine ∧
      (learnOrder rules me ((strikesIn t.mine me turn).map (·.event))).apply t₁ = (.ok (), t') := by
  obtain ⟨turn', h⟩ : ∃ turn', learnTurn rules me turn t = (turn', .ok (), t') := ⟨_, by rw [← hcall]; rfl⟩
  unfold learnTurn readTurn at h
  rcases helements : turn.elements with fault | events
  · simp [helements, Except.bind] at h
  rcases hmarks : events.mapM isAttack with fault | marks
  · simp [helements, hmarks, Except.bind, Except.map] at h
  rcases hevents : learnEvents rules me (marks.zip events) t with ⟨events', fault | _, t₁⟩
  · simp [helements, hmarks, hevents, Except.bind, Except.map] at h
  simp only [helements, hmarks, hevents, Except.bind, Except.map, Prod.mk.injEq] at h
  obtain ⟨hP', hmine⟩ := learnEvents_induction hstrike hP hevents
  have hmap : ∀ {α : Type} (f : Value → α), (((marks.zip events).filter (·.1)).map fun e => f e.2) =
      (events.filter fun e => (isAttack e).holds).map f := by
    intro α f
    rw [← filter_marks hmarks, List.map_map]
    rfl
  have hattacks := attacksOf_learnEvents hevents
  rw [List.map_fst_zip (Nat.le_of_eq (Outcome.length_of_mapM hmarks)),
    hmap fun e => (reduceCritical.apply e).2] at hattacks
  rw [hmap fun e => (⟨t.mine, me, (reduceCritical.apply e).2⟩ : Strike)] at hP'
  refine ⟨t₁, ?_, hmine, ?_⟩
  · rw [strikesIn, helements]
    exact hP'
  · rw [strikesIn, helements, List.map_map]
    rw [hattacks] at h
    exact Prod.ext h.2.1 h.2.2

/-- What each strike preserves, and what does not depend on the speed, is preserved by a turn. -/
theorem learnTurn_induction {P : List Strike → Tracker → Prop}
    (hstrike : ∀ {seen t t' event}, P seen t → (learnEvent rules me event).apply t = (.ok (), t') →
      P (seen ++ [⟨t.mine, me, event⟩]) t')
    (hspeed : ∀ {seen t t'}, P seen t → t'.besidesSpeed = t.besidesSpeed → P seen t')
    (seen : List Strike) {turn : Value} (hP : P seen t)
    (hcall : ((Call.learn me turn).perform rules).apply t = (.ok (), t')) :
    P (seen ++ strikesIn t.mine me turn) t' ∧ t'.mine = t.mine := by
  obtain ⟨t₁, hP', hmine, horder⟩ := learn_ok hstrike seen hP hcall
  have hkeeps := learnOrder_keeps rules me ((strikesIn t.mine me turn).map (·.event)) t₁
  rw [horder] at hkeeps
  exact ⟨hspeed hP' hkeeps, (congrArg Prod.fst hkeeps).trans hmine⟩

/-! ### Taking everything for possible -/

/-- All investments are possible for the stats of which there are investments. -/
structure Open (t : Tracker) (p : String) : Prop where
  stat : ∀ stat ∈ ["atk", "def", "spa", "spd"], (t.knowledge p).get? stat = some Investment.all
  points : (t.knowledge p).get? "hp" = some Investment.allPoints

theorem apply_openWith (key : String) (t : Tracker) :
    (modify (Store.openWith () key) : Change Tracker Unit).apply t =
      (.ok (), { t with investment := t.investment.put key openKnowledge }) :=
  rfl

theorem open_put (key : String) (t : Tracker) :
    Open { t with investment := t.investment.put key openKnowledge } key := by
  refine ⟨fun stat hstat => ?_, ?_⟩
  · rw [knowledge_put, if_pos rfl]
    simp only [List.mem_cons, List.not_mem_nil, or_false] at hstat
    rcases hstat with rfl | rfl | rfl | rfl <;> rfl
  · rw [knowledge_put, if_pos rfl]
    rfl

theorem Open.congr (h : t.Open p)
    (hsame : ∀ stat, stat ≠ "spe" → (t'.knowledge p).get? stat = (t.knowledge p).get? stat) : t'.Open p := by
  refine ⟨fun stat hstat => ?_, ?_⟩
  · rw [hsame stat (ne_of_mem_stats hstat).2]
    exact h.stat stat hstat
  · rw [hsame "hp" (by decide)]
    exact h.points

theorem Open.withSpeed (h : t.Open p) (q : String) (vs : List Value) : (t.withStat q "spe" vs).Open p :=
  h.congr fun _ hstat =>
    (changesOnly_withStat (List.mem_singleton.2 rfl) vs t).get?_of_not_mem (by simpa using hstat) p

private theorem initialiseOne_ok {creature : Value} (h : (initialiseOne rules () creature).apply t = (.ok (), t')) :
    ∃ p, creature.field "name" = .ok (.text p) ∧ t'.Open p ∧ t'.mine = t.mine ∧
      ∀ q, q ≠ p → t'.knowledge q = t.knowledge q := by
  unfold initialiseOne at h
  rw [Change.liftM_bind_eq_ok] at h
  obtain ⟨name, hname, h⟩ := h
  rw [Change.liftM_bind_eq_ok] at h
  obtain ⟨key, hkey, h⟩ := h
  rw [Change.bind_eq_ok] at h
  obtain ⟨_, t₁, ht₁, h⟩ := h
  rw [apply_openWith, Prod.mk.injEq] at ht₁
  obtain ⟨-, rfl⟩ := ht₁
  rw [Change.liftM_bind_eq_ok] at h
  obtain ⟨range, hrange, h⟩ := h
  rw [apply_setStat, Prod.mk.injEq] at h
  obtain ⟨-, rfl⟩ := h
  -- a species that has a range of the speed has an entry, so its name is a text
  obtain ⟨p, rfl⟩ : ∃ p, name = .text p := by
    simp only [speedRange, baseStat, Outcome.bind_eq_ok] at hrange
    obtain ⟨base, ⟨entry, hlookup, -⟩, -⟩ := hrange
    obtain ⟨p, rfl, -⟩ := Value.lookup_eq_ok hlookup
    exact ⟨p, rfl⟩
  rw [Value.keyName_text, Except.ok.injEq] at hkey
  subst hkey
  refine ⟨p, hname, (open_put p t).withSpeed p range, rfl, fun q hq => ?_⟩
  · rw [ChangesOnly.knowledge_of_ne (changesOnly_withStat (List.mem_singleton.2 rfl) _ _) hq, knowledge_put, if_neg hq]

/-- Whether a creature is named when everything is taken for possible. -/
def Names (team active : Value) (p : String) : Prop :=
  active.field "name" = .ok (.text p) ∨
    ∃ members, team.elements = .ok members ∧ ∃ creature ∈ members, creature.field "name" = .ok (.text p)

private theorem forM_initialiseOne_ok {members : List Value}
    (h : (members.forM (initialiseOne rules ())).apply t = (.ok (), t')) :
    t'.mine = t.mine ∧ ∀ p, (t'.Open p ∨ t'.knowledge p = t.knowledge p) ∧
      ((∃ creature ∈ members, creature.field "name" = .ok (.text p)) → t'.Open p) := by
  induction members generalizing t with
  | nil =>
    rw [List.forM, Change.apply_pure, Prod.mk.injEq] at h
    obtain ⟨-, rfl⟩ := h
    exact ⟨rfl, fun p => ⟨.inr rfl, by simp⟩⟩
  | cons creature members ih =>
    rw [List.forM, Change.bind_eq_ok] at h
    obtain ⟨_, t₁, hfirst, hrest⟩ := h
    obtain ⟨q, hq, hopen, hmine, hothers⟩ := initialiseOne_ok hfirst
    obtain ⟨hmine', hrest'⟩ := ih hrest
    refine ⟨hmine'.trans hmine, fun p => ?_⟩
    obtain ⟨hp, hnamed⟩ := hrest' p
    -- a creature that is open stays open
    have hstays : t₁.Open p → t'.Open p := by
      intro hbefore
      rcases hp with hafter | hsame
      · exact hafter
      · exact hbefore.congr fun stat _ => by rw [hsame]
    by_cases hpq : p = q
    · subst hpq
      exact ⟨.inl (hstays hopen), fun _ => hstays hopen⟩
    · refine ⟨?_, ?_⟩
      · rw [← hothers p hpq]
        exact hp
      · rintro ⟨c, hc, hcp⟩
        rcases List.mem_cons.1 hc with rfl | hc
        · rw [hq, Except.ok.injEq, Value.text.injEq] at hcp
          exact absurd hcp.symm hpq
        · exact hnamed ⟨c, hc, hcp⟩

/-- Everything is possible for the creatures named, and nothing changes for the others. -/
theorem initialise_ok {team active : Value} (h : (initialise rules team active).apply t = (.ok (), t')) :
    t'.mine = t.mine ∧ ∀ p, (t'.Open p ∨ t'.knowledge p = t.knowledge p) ∧ (Names team active p → t'.Open p) := by
  -- the active creature is treated as if it were the first of the team
  rw [initialise_eq] at h
  rw [Change.bind_eq_ok] at h
  obtain ⟨_, t₁, hactive, h⟩ := h
  rw [Change.liftM_bind_eq_ok] at h
  obtain ⟨members, hmembers, h⟩ := h
  have hall : ((active :: members).forM (initialiseOne rules ())).apply t = (.ok (), t') := by
    rw [List.forM, Change.bind_eq_ok]
    exact ⟨(), t₁, hactive, h⟩
  obtain ⟨hmine, hknowledge⟩ := forM_initialiseOne_ok hall
  refine ⟨hmine, fun p => ⟨(hknowledge p).1, fun hnames => (hknowledge p).2 ?_⟩⟩
  rcases hnames with hp | ⟨members', hmembers', creature, hc, hp⟩
  · exact ⟨active, List.mem_cons_self, hp⟩
  · rw [hmembers, Except.ok.injEq] at hmembers'
    subst hmembers'
    exact ⟨creature, List.mem_cons_of_mem _ hc, hp⟩

private theorem forM_initialiseOne_others {members : List Value}
    (hp : ∀ creature ∈ members, creature.field "name" ≠ .ok (.text p))
    (h : (members.forM (initialiseOne rules ())).apply t = (.ok (), t')) : t'.knowledge p = t.knowledge p := by
  induction members generalizing t with
  | nil =>
    rw [List.forM, Change.apply_pure, Prod.mk.injEq] at h
    rw [h.2]
  | cons creature members ih =>
    rw [List.forM, Change.bind_eq_ok] at h
    obtain ⟨_, t₁, hfirst, hrest⟩ := h
    obtain ⟨q, hq, -, -, hothers⟩ := initialiseOne_ok hfirst
    have hne : p ≠ q := by
      rintro rfl
      exact hp creature List.mem_cons_self hq
    rw [ih (fun c hc => hp c (List.mem_cons_of_mem _ hc)) hrest, hothers p hne]

/-- Nothing changes for a creature that is not named. -/
theorem initialise_others {team active : Value} (h : (initialise rules team active).apply t = (.ok (), t'))
    (hp : ¬Names team active p) : t'.knowledge p = t.knowledge p := by
  rw [initialise_eq] at h
  rw [Change.bind_eq_ok] at h
  obtain ⟨_, t₁, hactive, h⟩ := h
  rw [Change.liftM_bind_eq_ok] at h
  obtain ⟨members, hmembers, h⟩ := h
  obtain ⟨q, hq, -, -, hothers⟩ := initialiseOne_ok hactive
  have hne : p ≠ q := by
    rintro rfl
    exact hp (.inl hq)
  rw [forM_initialiseOne_others (fun c hc hname => hp (.inr ⟨members, hmembers, c, hc, hname⟩)) h, hothers p hne]

end Tracker

/-! ### Runs -/

variable {rules : Rules} {t t' : Tracker} {calls : List Call}

theorem perform_mine {call : Call} (h : (call.perform rules).apply t = (.ok (), t')) :
    t'.mine = call.position t.mine := by
  cases call with
  | reset =>
    cases h
    rfl
  | update mine theirs =>
    cases h
    rfl
  | initialise team active => exact (Tracker.initialise_ok h).1
  | learn me turn =>
    have htrue := Tracker.learnTurn_induction (P := fun _ _ => True) (fun _ _ => trivial) (fun _ _ => trivial) []
      trivial h
    exact htrue.2

/-- What each call preserves is preserved by a run. -/
theorem run_induction {P : List Strike → Tracker → Prop}
    (hcall : ∀ call ∈ calls, ∀ {seen t t'}, P seen t → (call.perform rules).apply t = (.ok (), t') →
      P (seen ++ call.strikes t.mine) t')
    (seen : List Strike) (hP : P seen t) (h : (run rules calls).apply t = (.ok (), t')) :
    P (seen ++ strikes t.mine calls) t' := by
  induction calls generalizing seen t with
  | nil =>
    rw [run, Change.apply_pure, Prod.mk.injEq] at h
    obtain ⟨-, rfl⟩ := h
    simpa [strikes] using hP
  | cons call calls ih =>
    rw [run, Change.bind_eq_ok] at h
    obtain ⟨_, t₁, hfirst, hrest⟩ := h
    have hP' := ih (fun c hc => hcall c (List.mem_cons_of_mem _ hc)) _ (hcall call List.mem_cons_self hP hfirst) hrest
    rw [perform_mine hfirst] at hP'
    simpa [strikes] using hP'

end Docsmith.Battle
