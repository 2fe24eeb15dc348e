import Docsmith.Proofs.Battle.Emptiness

/-!
# The shape of what is known

However long a run is and wherever its calls break off, the table of what is known keeps its shape: entries are
investments, the hit points are known wherever a defence is, and the lists stay short.  The list of the hit points is
the only one that can grow without being empty before; it is paid for by the defences that have entries (`Tracker.met`),
because entries are added to it only when a defence gets its first ones (`Reachable.bounded`).
-/

namespace Docsmith

namespace Battle

variable {rules : Rules} {s : Strike} {o : Outcome Unit} {t t' : Tracker} {p stat : String}

/-! ### Lengths of lists -/

private theorem length_fitting_le {ω : Type} (ways : List ω) (ranges : Outcome (List (Int × Int)))
    (damage : Outcome Value) :
    (fitting ways ranges damage).length ≤ ways.length := by
  rcases ranges with fault | rs
  · exact Nat.zero_le _
  rcases damage with fault | d
  · exact Nat.zero_le _
  rw [fitting, List.length_map]
  have hfilter := List.length_filter_le
    (fun wr => ((Value.int wr.2.1).le d).holds && (d.le (.int wr.2.2)).holds) (ways.zip rs)
  have hzip : (ways.zip rs).length ≤ ways.length := List.length_zip ▸ Nat.min_le_left _ _
  exact Nat.le_trans hfilter hzip

private theorem Strike.length_defences_le (rules : Rules) (s : Strike) : (s.defences rules).length ≤ 8 :=
  length_fitting_le Investment.waysWithPoints _ _

private theorem Strike.length_attacks_le (rules : Rules) (s : Strike) : (s.attacks rules).length ≤ 4 :=
  length_fitting_le Investment.ways _ _

namespace Tracker

private theorem length_orAll_le {vs all : List Value} {n : Nat} (hvs : vs.length ≤ n) (hall : all.length ≤ n) :
    (orAll vs all).length ≤ n := by
  unfold orAll
  split
  · exact hall
  · exact hvs

private theorem length_kept_le {before found : List Value} {n : Nat} (h : found.length ≤ n) :
    (kept before found).length ≤ n :=
  Nat.le_trans (List.length_filter_le _ _) h

/-! ### Short lists -/

/-- One if a defence of a creature has entries, else zero. -/
def met (t : Tracker) (p : String) (physical : Bool) : Nat :=
  if t.possible p (defenceName physical) = [] then 0 else 1

/-- The lists of a creature are short.  Each defence that has entries may have brought eight to the hit points. -/
structure BoundedAt (t : Tracker) (p : String) : Prop where
  attack : ∀ stat ∈ ["atk", "spa"], (t.possible p stat).length ≤ 4
  defence : ∀ physical, (t.possible p (defenceName physical)).length ≤ 8
  points : ∀ physical, (t.possible p "hp").length ≤ 8 * (t.met p physical + t.met p !physical)

/-- The lists of all creatures are short. -/
def Bounded (t : Tracker) : Prop := ∀ p, t.BoundedAt p

private theorem met_congr {physical : Bool}
    (h : t'.possible p (defenceName physical) = t.possible p (defenceName physical)) :
    t'.met p physical = t.met p physical := by
  rw [met, met, h]

private theorem met_le_one (t : Tracker) (p : String) (physical : Bool) : t.met p physical ≤ 1 := by
  unfold met
  split <;> decide

private theorem BoundedAt.congr (h : t.BoundedAt p)
    (hsame : ∀ stat, stat ≠ "spe" → (t'.knowledge p).get? stat = (t.knowledge p).get? stat) : t'.BoundedAt p := by
  have hpossible : ∀ stat, stat ≠ "spe" → t'.possible p stat = t.possible p stat := by
    intro stat hstat
    rw [possible, possible, hsame stat hstat]
  have hdefence : ∀ physical, t'.possible p (defenceName physical) = t.possible p (defenceName physical) :=
    fun physical => hpossible _ (by cases physical <;> decide)
  refine ⟨fun stat hstat => ?_, fun physical => ?_, fun physical => ?_⟩
  · rw [hpossible stat (by rintro rfl; simp at hstat)]
    exact h.attack stat hstat
  · rw [hdefence]
    exact h.defence physical
  · rw [hpossible "hp" (by decide), met_congr (hdefence _), met_congr (hdefence _)]
    exact h.points physical

private theorem boundedAt_of_open (h : t.Open p) : t.BoundedAt p := by
  have hdefence : ∀ physical, t.possible p (defenceName physical) = Investment.all :=
    fun physical => possible_of_get? (h.stat _ (by cases physical <;> decide))
  refine ⟨fun stat hstat => ?_, fun physical => ?_, fun physical => ?_⟩
  · rw [possible_of_get? (h.stat stat (by simp only [List.mem_cons] at hstat ⊢; grind))]
    decide
  · rw [hdefence]
    decide
  · rw [possible_of_get? h.points, met, met, hdefence, hdefence, if_neg all_ne_nil]
    decide

/-- It is enough to look at one defence and at the hit points if nothing else has changed. -/
private theorem BoundedAt.of_defence {physical : Bool} (h : t.BoundedAt p)
    (honly : ChangesOnly p [defenceName physical, "hp"] t t')
    (hdefence : (t'.possible p (defenceName physical)).length ≤ 8)
    (hpoints : (t'.possible p "hp").length ≤ 8 * (t'.met p physical + t.met p !physical)) : t'.BoundedAt p := by
  have hother : t'.possible p (defenceName !physical) = t.possible p (defenceName !physical) := by
    rw [possible, possible, honly.rest _ (by cases physical <;> decide)]
  rw [← met_congr hother] at hpoints
  refine ⟨fun stat hstat => ?_, fun physical' => ?_, fun physical' => ?_⟩
  · rw [possible, honly.rest stat, ← possible]
    · exact h.attack stat hstat
    · simp only [List.mem_cons, List.not_mem_nil, or_false] at hstat
      rcases hstat with rfl | rfl <;> cases physical <;> decide
  · by_cases hp : physical' = physical
    · exact hp ▸ hdefence
    · rw [Bool.eq_not.2 hp, hother]
      exact h.defence _
  · by_cases hp : physical' = physical
    · exact hp ▸ hpoints
    · rw [Bool.eq_not.2 hp, Bool.not_not, Nat.add_comm]
      exact hpoints

private theorem BoundedAt.defenceStep {ways : List (Bool × Bool × Bool)} {physical : Bool} (h : t.BoundedAt p)
    (hways : ways.length ≤ 8) (hstep : DefenceStep p (defenceName physical) ways t t') : t'.BoundedAt p := by
  by_cases hempty : t.possible p (defenceName physical) = []
  · obtain ⟨hnow, hpoints⟩ := hstep.first hempty
    refine h.of_defence hstep.only ?_ ?_
    · rw [possible_of_get? hnow, List.length_map]
      exact hways
    · -- the hit points get as many entries as the defence, which had none
      have hgained : (t'.possible p "hp").length ≤ (t.possible p "hp").length + ways.length := by
        rw [possible, hpoints]
        split
        · rcases hhp : (t.knowledge p).get? "hp" with _ | vs
          · exact Nat.zero_le _
          · rw [possible_of_get? hhp]
            simp
        · simp
      have hnone : t.met p physical = 0 := if_pos hempty
      have hpaid : ways.length ≤ 8 * t'.met p physical := by
        rw [met, possible_of_get? hnow]
        cases ways with
        | nil => exact Nat.zero_le _
        | cons w ws => simpa using hways
      have hbefore := h.points physical
      omega
  · obtain ⟨hnow, hpoints⟩ := hstep.again hempty
    have hmet : t'.met p physical = 1 := by
      rw [met, possible_of_get? hnow, if_neg (orAll_ne_nil all_ne_nil)]
    refine h.of_defence hstep.only ?_ ?_
    · rw [possible_of_get? hnow]
      exact length_orAll_le (length_kept_le (by simpa using hways)) (by decide)
    · have hshort : (t'.possible p "hp").length ≤ 8 := by
        rw [possible_of_get? hpoints]
        exact length_orAll_le (length_kept_le (by simpa using hways)) (by decide)
      omega

private theorem BoundedAt.defenceSetUp {physical : Bool} (h : t.BoundedAt p)
    (hsetUp : DefenceSetUp p (defenceName physical) t t') : t'.BoundedAt p := by
  have hsame : t'.possible p (defenceName physical) = t.possible p (defenceName physical) := possible_of_get? hsetUp.now
  refine h.of_defence hsetUp.only ?_ ?_
  · rw [hsame]
    exact h.defence physical
  · have hshorter : (t'.possible p "hp").length ≤ (t.possible p "hp").length := by
      rw [possible, hsetUp.points]
      split
      · exact Nat.le_refl _
      · exact Nat.zero_le _
    rw [met_congr hsame]
    exact Nat.le_trans hshorter (h.points physical)

private theorem BoundedAt.of_attack (h : t.BoundedAt p) (honly : ChangesOnly p [s.attackStat] t t')
    (hattack : (t'.possible p s.attackStat).length ≤ 4) : t'.BoundedAt p := by
  have hdefence : ∀ physical, t'.possible p (defenceName physical) = t.possible p (defenceName physical) := by
    intro physical
    rw [possible, possible, honly.rest _ (s.defenceName_ne_attackStat physical)]
  refine ⟨fun stat hstat => ?_, fun physical => ?_, fun physical => ?_⟩
  · by_cases hs : stat = s.attackStat
    · exact hs ▸ hattack
    · rw [possible, honly.rest stat (by simpa using hs), ← possible]
      exact h.attack stat hstat
  · rw [hdefence]
    exact h.defence physical
  · rw [met_congr (hdefence _), met_congr (hdefence _), possible, honly.rest "hp" s.points_ne_attackStat]
    exact h.points physical

private theorem BoundedAt.attackStep {ways : List (Bool × Bool)} (h : t.BoundedAt p) (hways : ways.length ≤ 4)
    (hstep : AttackStep p s.attackStat ways t t') : t'.BoundedAt p := by
  refine h.of_attack hstep.only ?_
  by_cases hempty : t.possible p s.attackStat = []
  · rw [possible_of_get? (hstep.first hempty)]
    exact length_orAll_le (by simpa using hways) (by decide)
  · rw [possible_of_get? (hstep.again hempty)]
    exact length_orAll_le (length_kept_le (by simpa using hways)) (by decide)

private theorem BoundedAt.attackSetUp (h : t.BoundedAt p) (hsetUp : AttackSetUp p s.attackStat t t') :
    t'.BoundedAt p := by
  refine h.of_attack hsetUp.only ?_
  rw [possible_of_get? hsetUp.now]
  refine h.attack _ ?_
  unfold Strike.attackStat
  split <;> decide

private theorem Bounded.congr (h : t.Bounded) (hsame : SameKnown t t') : t'.Bounded := fun q => (h q).congr (hsame q)

private theorem Bounded.effect (h : t.Bounded) (heffect : Effect rules s o t t') : t'.Bounded := by
  have hothers : ∀ {p stats}, ChangesOnly p stats t t' → t'.BoundedAt p → t'.Bounded := by
    intro p stats honly hp q
    by_cases hq : q = p
    · exact hq ▸ hp
    · exact (h q).congr fun stat _ => by rw [honly.knowledge_of_ne hq]
  cases heffect with
  | same hquiet hsame => exact h.congr hsame
  | defence p hp hstep => exact hothers hstep.only ((h p).defenceStep (s.length_defences_le rules) hstep)
  | attack p hp hstep => exact hothers hstep.only ((h p).attackStep (s.length_attacks_le rules) hstep)
  | defenceSetUp p hp hfault hsetUp => exact hothers hsetUp.only ((h p).defenceSetUp hsetUp)
  | attackSetUp p hp hfault hsetUp => exact hothers hsetUp.only ((h p).attackSetUp hsetUp)

private theorem bounded_of_investment_nil (h : t.investment = []) : t.Bounded := by
  have hnone : ∀ p stat, t.possible p stat = [] := by
    intro p stat
    rw [possible, knowledge, h]
    rfl
  intro p
  refine ⟨fun stat _ => ?_, fun physical => ?_, fun physical => ?_⟩
  · simp [hnone]
  · simp [hnone]
  · simp [hnone]

end Tracker

private theorem Reachable.bounded (h : Reachable rules t) : t.Bounded := by
  induction h with
  | start => exact Tracker.bounded_of_investment_nil rfl
  | @call t call h ih =>
    cases call with
    | reset => exact Tracker.bounded_of_investment_nil rfl
    | update mine theirs => exact ih.congr fun _ _ _ => rfl
    | initialise team active =>
      intro p
      rcases Tracker.initialise_opens rules team active t p with hopen | hsame
      · exact Tracker.boundedAt_of_open hopen
      · exact (ih p).congr fun stat _ => by rw [← hsame]; rfl
    | learn me turn =>
      -- what an attack does is only known where the hit points are known with the defences
      refine (Tracker.learnTurn_preserves (P := fun u => u.Sound ∧ u.Bounded) (fun hu => hu.1.paired) ?_ ?_ me turn
        ⟨h.sound, ih⟩).2
      · exact fun hu heffect => ⟨hu.1.effect heffect, hu.2.effect heffect⟩
      · exact fun hu hsame => ⟨hu.1.congr hsame, hu.2.congr hsame⟩

/-! ### The hit points are found -/

/-- The only key that a lookup by name can miss is that name. -/
private theorem field_ne_missing {v : Value} {name other : String} (h : name ≠ other) :
    v.field name ≠ .error (.missingKey (.text other)) := by
  cases v with
  | record fields =>
    rw [Value.field, Value.item, Value.lookup]
    split
    · simp
    · simpa using h
  | creature attributes =>
    simp only [Value.field, Value.item, Value.attr]
    split <;> simp
  | _ => simp [Value.field, Value.item, Value.int?]

/-- Lists have members by position and miss no key. -/
private theorem item_ne_missing {items : List Value} {i : Nat} {key : Value} :
    (Value.list items).item (.int i) ≠ .error (.missingKey key) := by
  simp only [Value.item, Value.int?]
  split <;> simp

private theorem mem_of_item_eq_ok {items : List Value} {i : Nat} {v : Value}
    (h : (Value.list items).item (.int i) = .ok v) : v ∈ items := by
  simp only [Value.item, Value.int?, Value.nth?, Int.natCast_nonneg, if_true, Int.toNat_natCast] at h
  rcases hi : items[i]? with _ | w
  · simp [hi] at h
  · rw [hi, Except.ok.injEq] at h
    exact h ▸ List.mem_of_getElem? hi

private theorem int_le_ne_missing {n : Int} {v key : Value} : (Value.int n).le v ≠ .error (.missingKey key) := by
  cases v <;> simp [Value.le, Value.before, Value.toNumber, Value.number?, bind, Except.bind]

private theorem le_int_ne_missing {n : Int} {v key : Value} : v.le (.int n) ≠ .error (.missingKey key) := by
  cases v <;> simp [Value.le, Value.before, Value.toNumber, Value.number?, bind, Except.bind]

namespace Tracker

private theorem inRange_ne_missing {damage key : Value} {r : Int × Int} :
    inRange damage (.list [.int r.1, .int r.2]) ≠ .error (.missingKey key) := by
  intro h
  have h0 : (Value.list [.int r.1, .int r.2]).item (.int 0) = .ok (.int r.1) := rfl
  have h1 : (Value.list [.int r.1, .int r.2]).item (.int 1) = .ok (.int r.2) := rfl
  simp only [inRange, h0, h1, Outcome.bind_eq_error, Except.ok.injEq, exists_eq_left', reduceCtorEq, false_or] at h
  rcases h with h | ⟨low, -, h⟩
  · exact int_le_ne_missing h
  · split at h
    · exact le_int_ne_missing h
    · cases h

/-- The search for investments reads lists only. -/
private theorem allowed_ne_missing {damage key : Value} {rs : List (Int × Int)} {count i : Nat} :
    allowed defencePart damage (rangeValues rs) wayValuesWithPoints count i ≠ .error (.missingKey key) := by
  induction count generalizing i with
  | zero => simp [allowed]
  | succ count ih =>
    intro h
    rw [allowed, Outcome.bind_eq_error] at h
    rcases h with h | ⟨range, hrange, h⟩
    · exact item_ne_missing h
    obtain ⟨r, -, rfl⟩ := List.mem_map.1 (mem_of_item_eq_ok hrange)
    rw [Outcome.bind_eq_error] at h
    rcases h with h | ⟨fits, -, h⟩
    · exact inRange_ne_missing h
    split at h
    · rw [Outcome.bind_eq_error] at h
      rcases h with h | ⟨combination, hcombination, h⟩
      · exact item_ne_missing h
      obtain ⟨w, -, rfl⟩ := List.mem_map.1 (mem_of_item_eq_ok hcombination)
      have hpart : defencePart (.list [.bool w.1, .bool w.2.1, .bool w.2.2]) =
          .ok (.bool w.1, .bool w.2.1, .bool w.2.2) := rfl
      simp only [hpart, Outcome.bind_eq_error, Except.ok.injEq, exists_eq_left', reduceCtorEq, false_or, and_false,
        exists_false, or_false] at h
      exact ih h
    · exact ih h

private theorem allowedDefences_of_keyName {σ : Type} [Store σ] {name : Value} (h : name.keyName = .ok p)
    (stat damage results combinations : Value) :
    (allowedDefences name stat damage results combinations : Change σ _) =
      allowedDefences (.text p) stat damage results combinations := by
  simp only [allowedDefences, ensureKnowledge, h, Value.keyName_text]

/-- Learning from an attack of the player never misses the hit points of a creature. -/
private theorem learnAttacking_finds_points (h : t.Paired) (event : Value) (rs : List (Int × Int)) :
    ((learnAttacking event (rangeValues rs) wayValuesWithPoints).apply t).1 ≠ .error (.missingKey (.text "hp")) := by
  intro hmissing
  have herror : (learnAttacking event (rangeValues rs) wayValuesWithPoints).apply t =
      (.error (.missingKey (.text "hp")), ((learnAttacking event (rangeValues rs) wayValuesWithPoints).apply t).2) :=
    Prod.ext hmissing rfl
  generalize ((learnAttacking event (rangeValues rs) wayValuesWithPoints).apply t).2 = t' at herror
  rw [learnAttacking, Change.liftM_bind_eq_error] at herror
  rcases herror with ⟨hmove, -⟩ | ⟨move, -, herror⟩
  · exact field_ne_missing (by decide) hmove
  rw [Change.liftM_bind_eq_error] at herror
  rcases herror with ⟨hdamage, -⟩ | ⟨damage, -, herror⟩
  · exact field_ne_missing (by decide) hdamage
  rw [Change.liftM_bind_eq_error] at herror
  rcases herror with ⟨hcategory, -⟩ | ⟨category, -, herror⟩
  · exact field_ne_missing (by decide) hcategory
  obtain ⟨physical, hstat⟩ : ∃ physical, (if category.isText "Physical" then "def" else "spd") = defenceName physical :=
    ⟨_, rfl⟩
  simp only [hstat] at herror
  rw [Change.liftM_bind_eq_error] at herror
  rcases herror with ⟨hname, -⟩ | ⟨name, -, herror⟩
  · exact field_ne_missing (by decide) hname
  rcases hkey : name.keyName with fault | p
  · -- a name that is no key ends the search before it has begun
    have hfault : fault = .wrongType := by
      rw [Value.keyName] at hkey
      split at hkey <;> cases hkey
      rfl
    have hsearch : (allowedDefences name (.text (defenceName physical)) damage (rangeValues rs)
        wayValuesWithPoints).apply t = (.error fault, t) := by
      simp [allowedDefences, rangeValues, Value.size, Change.apply_bind, apply_ensureKnowledge, hkey]
    simp [Change.apply_bind, hsearch, hfault] at herror
  rw [allowedDefences_of_keyName hkey, Change.bind_eq_error, apply_allowedDefences] at herror
  rcases herror with herror | ⟨ways, t₁, hways, herror⟩
  · exact allowed_ne_missing (congrArg Prod.fst herror)
  rw [Prod.mk.injEq] at hways
  obtain ⟨-, rfl⟩ := hways
  rw [hkey, Change.apply_bind_of_ok (Change.apply_liftM _ _)] at herror
  have hok := learnWays_succeeds (by cases physical <;> decide) (h p physical)
    (ways.map fun w => (Investment.ofParts w.1 w.2.1, Investment.ofEffort w.2.2))
  rw [herror] at hok
  cases hok

end Tracker

/-- The table of what is known keeps its shape, whatever calls were made and whether they failed or not: the hit points
are known with each defence, so that learning from an attack never misses them; the entries of a stat are records of
two truth values and those of the hit points records of one; and there are at most four entries for an attack, eight
for a defence and sixteen for the hit points. -/
theorem table_keeps_shape (h : Reachable rules t) :
    (∀ p k, t.investment.get? p = some k →
      (k.has "def" ∨ k.has "spd" → k.has "hp") ∧
      (∀ stat ∈ ["atk", "spa", "def", "spd"], ∀ vs, k.get? stat = some vs →
        (∀ v ∈ vs, ∃ full favourable, v = .record [("max_evs", .bool full), ("positive_nature", .bool favourable)]) ∧
        vs.length ≤ if stat ∈ ["atk", "spa"] then 4 else 8) ∧
      ∀ vs, k.get? "hp" = some vs → (∀ v ∈ vs, ∃ full, v = .record [("max_evs", .bool full)]) ∧ vs.length ≤ 16) ∧
    ∀ event rs, ((Tracker.learnAttacking event (Tracker.rangeValues rs) Tracker.wayValuesWithPoints).apply t).1 ≠
      .error (.missingKey (.text "hp")) := by
  refine ⟨fun p k hk => ?_, Tracker.learnAttacking_finds_points h.sound.paired⟩
  obtain rfl : t.knowledge p = k := by rw [Tracker.knowledge, hk, Option.getD_some]
  have hsound := h.sound p
  have hbounded := h.bounded p
  refine ⟨?_, fun stat hstat vs hvs => ⟨fun v hv => ?_, ?_⟩, fun vs hvs => ⟨fun v hv => ?_, ?_⟩⟩
  · rintro (hdef | hspd)
    · exact hsound.paired true hdef
    · exact hsound.paired false hspd
  · have hstat' : stat ∈ ["atk", "def", "spa", "spd"] := by
      simp only [List.mem_cons, List.not_mem_nil, or_false] at hstat ⊢
      grind
    obtain ⟨way, rfl⟩ := hsound.entry stat hstat' v (Tracker.possible_of_get? hvs ▸ hv)
    exact ⟨way.1, way.2, rfl⟩
  · rw [← Tracker.possible_of_get? hvs]
    split
    next hattack => exact hbounded.attack stat hattack
    next hattack =>
      simp only [List.mem_cons, List.not_mem_nil, or_false] at hstat hattack
      obtain rfl | rfl : stat = "def" ∨ stat = "spd" := by grind
      · exact hbounded.defence true
      · exact hbounded.defence false
  · obtain ⟨full, rfl⟩ := hsound.points v (Tracker.possible_of_get? hvs ▸ hv)
    exact ⟨full, rfl⟩
  · rw [← Tracker.possible_of_get? hvs]
    have hpoints := hbounded.points true
    have htrue := t.met_le_one p true
    have hfalse := t.met_le_one p false
    rw [Bool.not_true] at hpoints
    omega

namespace Sample

/-- An attack without power, which does no damage whatever the investment is. -/
def splash (category : String) : Value :=
  attack "me" "spinda" "floatzel" (Rules.moveEntry "splash" "Normal" category 0 0) 0 false

/-- A physical attack whose damage is not a number, so that learning from it breaks off. -/
def unclear : Value :=
  match mine true 30 false with
  | .record fields => .record (Fields.put "pct_damage" (.text "much") fields)
  | v => v

/-- The tracker that takes note of the positions and learns from the unclear attack. -/
def half : Tracker :=
  (((Call.learn (.text "me") (.list [unclear])).perform Rules.standard).apply
    (((Call.update position (.record [("active", foe)])).perform Rules.standard).apply Tracker.start).2).2

/-- The tracker that then learns from an attack without power against each defence. -/
def crowded : Tracker :=
  (((Call.learn (.text "me") (.list [splash "Physical"])).perform Rules.standard).apply
    (((Call.learn (.text "me") (.list [splash "Special"])).perform Rules.standard).apply half).2).2

end Sample

/-- All three bounds of the defences and the hit points are reached, after a call that broke off. -/
theorem sample_table_keeps_shape :
    Reachable Rules.standard Sample.crowded ∧
    ((Sample.half.knowledge "floatzel").get? "def").map List.length = some 0 ∧
    ∃ k, Sample.crowded.investment.get? "floatzel" = some k ∧
      (k.get? "def").map List.length = some 8 ∧ (k.get? "spd").map List.length = some 8 ∧
      (k.get? "hp").map List.length = some 16 ∧ (k.has "def" ∨ k.has "spd" → k.has "hp") ∧
      ∀ vs, k.get? "hp" = some vs → (∀ v ∈ vs, ∃ full, v = .record [("max_evs", .bool full)]) ∧ vs.length ≤ 16 := by
  have hreachable : Reachable Rules.standard Sample.crowded := (((Reachable.start.call _).call _).call _).call _
  have hevaluated : ((Sample.half.knowledge "floatzel").get? "def").map List.length = some 0 ∧
      (Sample.crowded.investment.has "floatzel") = true ∧
      ((Sample.crowded.knowledge "floatzel").get? "def").map List.length = some 8 ∧
      ((Sample.crowded.knowledge "floatzel").get? "spd").map List.length = some 8 ∧
      ((Sample.crowded.knowledge "floatzel").get? "hp").map List.length = some 16 := by decide +kernel
  obtain ⟨hhalf, hhas, hdef, hspd, hpoints⟩ := hevaluated
  obtain ⟨k, hk⟩ := Option.isSome_iff_exists.1 hhas
  have hknowledge : Sample.crowded.knowledge "floatzel" = k := by rw [Tracker.knowledge, hk, Option.getD_some]
  rw [hknowledge] at hdef hspd hpoints
  obtain ⟨hpaired, -, hentries⟩ := (table_keeps_shape hreachable).1 "floatzel" k hk
  exact ⟨hreachable, hhalf, k, hk, hdef, hspd, hpoints, hpaired, hentries⟩

end Battle

end Docsmith
