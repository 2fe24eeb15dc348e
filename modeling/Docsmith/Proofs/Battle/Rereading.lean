import Docsmith.Proofs.Battle.Narrowing
import Docsmith.Proofs.Battle.Sequence

/-!
# A turn that is learned from twice

The damage of a critical hit is reduced in the turn itself, where the next one who learns from the turn finds it and
reduces it once more.  A damage that could be reduced can be reduced again (`reduceCritical_again`), and what an attack
teaches depends on its damage only through the investments that fit it (`learnEvent_congr`).  So the second reading
agrees with that of a copy as long as the same investments fit, and after a single first hit only then
(`second_reading_agrees`).
-/

namespace Docsmith.Battle

variable {rules : Rules} {me event event' turn : Value} {t t' : Tracker} {fields : Fields Value} {name : String}

namespace Tracker

/-! ### Reducing the damage twice -/

private theorem contains_reduced (h : name ∉ ["damage", "pct_damage"]) (event : Value) :
    (reduced event).contains (.text name) = event.contains (.text name) := by
  have hkeeps : reduceCritical.Keeps fun e => e.contains (.text name) := by
    refine reduceCritical_spares fun part hpart w fields => ?_
    have hne : name ≠ part := fun heq => h (heq ▸ hpart)
    simp [Value.contains, Value.isKey, Fields.has, hne]
  exact hkeeps event

private theorem getOr_reduced (h : name ∉ ["damage", "pct_damage"]) (fallback event : Value) :
    (reduced event).getOr (.text name) fallback = event.getOr (.text name) fallback := by
  have hkeeps : reduceCritical.Keeps fun e => e.getOr (.text name) fallback := by
    refine reduceCritical_spares fun part hpart w fields => ?_
    have hne : name ≠ part := fun heq => h (heq ▸ hpart)
    simp [Value.getOr, Value.contains, Value.item, Value.lookup, Value.isKey, Fields.has, hne]
  exact hkeeps event

/-- Whether an event is a critical hit. -/
def isCritical (event : Value) : Outcome Bool := do
  if ← event.contains (.text "critical_hit") then .ok (← event.field "critical_hit").truthy else .ok false

private theorem isCritical_reduced (event : Value) : isCritical (reduced event) = isCritical event := by
  rw [isCritical, contains_reduced (by decide), field_reduced (by decide), isCritical]

private theorem apply_reduceCritical (event : Value) :
    reduceCritical.apply event = ((liftM (isCritical event) : Change Value Bool) >>= fun critical =>
      if critical then (reducePart "damage" >>= fun _ => reducePart "pct_damage") else pure ()).apply event := by
  unfold reduceCritical isCritical
  rw [Change.get_bind_apply]
  rcases event.contains (.text "critical_hit") with fault | b
  · rfl
  cases b with
  | false => rfl
  | true =>
    rcases event.field "critical_hit" with fault | v
    · rfl
    · rfl

private theorem reduced_of_not_critical (h : isCritical event = .ok false) : reduced event = event := by
  rw [reduced, apply_reduceCritical, h]
  rfl

/-- A quotient is a binary64 number. -/
private theorem div_ok {v w u : Value} (h : v.div w = .ok u) : ∃ x, u = .float x := by
  simp only [Value.div, Outcome.bind_eq_ok, Outcome.map_eq_ok] at h
  obtain ⟨a, -, b, -, n, hn, rfl⟩ := h
  unfold Value.Number.div at hn
  split at hn
  · obtain ⟨x, -, rfl⟩ := Outcome.map_eq_ok.1 hn
    exact ⟨x, rfl⟩
  · simp only [Outcome.bind_eq_ok] at hn
    obtain ⟨x, -, y, -, hn⟩ := hn
    split at hn
    next q _ =>
      cases hn
      exact ⟨q, rfl⟩
    next => cases hn

private theorem twoThirds_ok {v w : Value} (h : twoThirds v = .ok w) : ∃ x, w = .float x := by
  obtain ⟨double, -, hdiv⟩ := Outcome.bind_eq_ok.1 h
  exact div_ok hdiv

private theorem div?_of_isZero {x y : Binary64} (h : y.isZero = false) : ∃ z, x.div? y = some z := by
  simp only [Binary64.div?, h, Bool.false_eq_true, if_false]
  cases x <;> cases y <;> exact ⟨_, rfl⟩

/-- Two thirds can be taken of every binary64 number. -/
private theorem twoThirds_float (x : Binary64) : ∃ y, twoThirds (.float x) = .ok (.float y) := by
  obtain ⟨two, htwo⟩ : ∃ two, Binary64.ofInt? 2 = some two := ⟨_, rfl⟩
  obtain ⟨three, hthree, hzero⟩ : ∃ three, Binary64.ofInt? 3 = some three ∧ three.isZero = false := ⟨_, rfl, rfl⟩
  obtain ⟨y, hy⟩ := div?_of_isZero hzero (x := Binary64.mul x two)
  have hmul : (Value.float x).mul (.int 2) = .ok (.float (Binary64.mul x two)) := by
    simp [Value.mul, Value.toNumber, Value.number?, Value.Number.mul, Value.Number.combine,
      Value.Number.toBinary64, htwo, bind, Except.bind, Except.map, Value.ofNumber]
  refine ⟨y, ?_⟩
  rw [twoThirds, hmul]
  simp [Value.div, Value.toNumber, Value.number?, Value.Number.div, Value.Number.toBinary64, hthree, hy, bind,
    Except.bind, Except.map, Value.ofNumber]

/-- A part of an event that has been reduced is a binary64 number. -/
private theorem reducePart_ok {part : String} (h : (reducePart part).apply event = (.ok (), event')) :
    ∃ fields x, event = .record fields ∧ event' = .record (Fields.put part (.float x) fields) := by
  rw [reducePart, Change.get_bind_apply, Change.liftM_bind_eq_ok] at h
  obtain ⟨v, -, h⟩ := h
  rw [Change.liftM_bind_eq_ok] at h
  obtain ⟨w, hw, h⟩ := h
  obtain ⟨x, rfl⟩ := twoThirds_ok hw
  cases event with
  | record fields =>
    cases h
    exact ⟨fields, x, rfl, rfl⟩
  | _ => cases h

private theorem reducePart_float {part : String} {x : Binary64} (h : fields.get? part = some (.float x)) :
    ∃ y, (reducePart part).apply (.record fields) = (.ok (), .record (Fields.put part (.float y) fields)) := by
  obtain ⟨y, hy⟩ := twoThirds_float x
  have hfield : (Value.record fields).field part = .ok (.float x) := by
    simp [Value.field, Value.item, Value.lookup, h]
  refine ⟨y, ?_⟩
  rw [reducePart, Change.get_bind_apply, hfield, Change.apply_bind_of_ok (Change.apply_liftM _ _), hy,
    Change.apply_bind_of_ok (Change.apply_liftM _ _)]
  rfl

/-- The damage of an event, whole and in percent, is given by binary64 numbers. -/
def HasFloats (event : Value) : Prop :=
  ∃ (fields : Fields Value) (x y : Binary64), event = .record fields ∧ fields.get? "damage" = some (.float x) ∧
    fields.get? "pct_damage" = some (.float y)

private theorem hasFloats_reduced (hcritical : isCritical event = .ok true)
    (h : (reduceCritical.apply event).1 = .ok ()) :
    HasFloats (reduced event) := by
  have hreduce : reduceCritical.apply event = (.ok (), reduced event) := Prod.ext h rfl
  rw [apply_reduceCritical, hcritical, Change.apply_bind_of_ok (Change.apply_liftM _ _), if_pos rfl,
    Change.bind_eq_ok] at hreduce
  obtain ⟨_, event', hwhole, hpercent⟩ := hreduce
  obtain ⟨fields, x, -, rfl⟩ := reducePart_ok hwhole
  obtain ⟨fields', y, hfields, hreduced⟩ := reducePart_ok hpercent
  cases hfields
  refine ⟨_, x, y, hreduced, ?_, ?_⟩
  · rw [Fields.get?_put_of_ne (by decide), Fields.get?_put_self]
  · rw [Fields.get?_put_self]

private theorem reduceCritical_of_hasFloats (hcritical : isCritical event = .ok true) (h : HasFloats event) :
    (reduceCritical.apply event).1 = .ok () := by
  obtain ⟨fields, x, y, rfl, hx, hy⟩ := h
  obtain ⟨x', hwhole⟩ := reducePart_float hx
  have hy' : (Fields.put "damage" (.float x') fields).get? "pct_damage" = some (.float y) := by
    rw [Fields.get?_put_of_ne (by decide), hy]
  obtain ⟨y', hpercent⟩ := reducePart_float hy'
  rw [apply_reduceCritical, hcritical, Change.apply_bind_of_ok (Change.apply_liftM _ _), if_pos rfl,
    Change.apply_bind_of_ok hwhole, hpercent]

/-- A damage that could be reduced can be reduced again. -/
private theorem reduceCritical_again (h : (reduceCritical.apply event).1 = .ok ()) :
    (reduceCritical.apply (reduced event)).1 = .ok () := by
  rcases hcritical : isCritical event with fault | critical
  · rw [apply_reduceCritical, hcritical] at h
    cases h
  cases critical with
  | true =>
    refine reduceCritical_of_hasFloats ?_ (hasFloats_reduced hcritical h)
    rw [isCritical_reduced, hcritical]
  | false =>
    rw [reduced_of_not_critical hcritical]
    exact h

/-! ### Learning from the same attack with another damage -/

private theorem inRange_float (x : Binary64) (r : Int × Int) :
    ∃ b, inRange (.float x) (.list [.int r.1, .int r.2]) = .ok b := by
  have h0 : (Value.list [.int r.1, .int r.2]).item (.int 0) = .ok (.int r.1) := rfl
  have h1 : (Value.list [.int r.1, .int r.2]).item (.int 1) = .ok (.int r.2) := rfl
  obtain ⟨low, hlow⟩ : ∃ b, (Value.int r.1).le (.float x) = .ok b := ⟨_, rfl⟩
  obtain ⟨high, hhigh⟩ : ∃ b, (Value.float x).le (.int r.2) = .ok b := ⟨_, rfl⟩
  rw [inRange, h0, h1]
  simp only [bind, Except.bind, hlow, hhigh]
  cases low
  · exact ⟨false, rfl⟩
  · exact ⟨high, rfl⟩

section Allowed

variable {ω α : Type} {enc : ω → Value} {dec : ω → α} {part : Value → Outcome α} {ways : List ω} {rs : List (Int × Int)}

private theorem allowed_succeeds (hpart : ∀ w, part (enc w) = .ok (dec w)) (hlen : rs.length = ways.length)
    (x : Binary64) {count i : Nat} (hcount : count + i = ways.length) :
    ∃ vs, allowed part (.float x) (rangeValues rs) (.list (ways.map enc)) count i = .ok vs := by
  induction count generalizing i with
  | zero => exact ⟨[], rfl⟩
  | succ count ih =>
    have hi : i < ways.length := by omega
    have hi' : i < rs.length := by omega
    have hrange : (rangeValues rs).item (.int i) = .ok (.list [.int rs[i].1, .int rs[i].2]) :=
      Value.item_list_of_getElem? (by simp [hi'])
    have hway : (Value.list (ways.map enc)).item (.int i) = .ok (enc ways[i]) :=
      Value.item_list_of_getElem? (by simp [hi])
    obtain ⟨b, hb⟩ := inRange_float x rs[i]
    obtain ⟨vs, hvs⟩ := ih (i := i + 1) (by omega)
    unfold allowed
    simp only [hrange, hway, hb, hpart, hvs, bind, Except.bind]
    cases b
    · exact ⟨vs, rfl⟩
    · exact ⟨dec ways[i] :: vs, rfl⟩

/-- The search for a binary64 number ends, and finds the ways that fit. -/
private theorem allowed_float (hpart : ∀ w, part (enc w) = .ok (dec w)) (hlen : rs.length = ways.length)
    (x : Binary64) :
    allowed part (.float x) (rangeValues rs) (.list (ways.map enc)) rs.length 0 =
      .ok ((fitting ways (.ok rs) (.ok (.float x))).map dec) := by
  have hall : rs.length + 0 = ways.length := hlen
  obtain ⟨vs, hvs⟩ := allowed_succeeds hpart hlen x hall
  rw [hvs, allowed_eq_ok hpart hlen hvs]

end Allowed

private theorem allowedDefences_congr {σ : Type} [Store σ] {rs : List (Int × Int)} {damage damage' combinations : Value}
    (h : allowed defencePart damage' (rangeValues rs) combinations rs.length 0 =
      allowed defencePart damage (rangeValues rs) combinations rs.length 0) (name stat : Value) :
    (allowedDefences name stat damage' (rangeValues rs) combinations : Change σ _) =
      allowedDefences name stat damage (rangeValues rs) combinations := by
  have hsize : (rangeValues rs).size = .ok rs.length := by simp [rangeValues, Value.size]
  simp only [allowedDefences, hsize, Change.ok_bind, h]

private theorem allowedAttacks_congr {σ : Type} [Store σ] {rs : List (Int × Int)} {damage damage' combinations : Value}
    (h : allowed attackPart damage' (rangeValues rs) combinations rs.length 0 =
      allowed attackPart damage (rangeValues rs) combinations rs.length 0) (name stat : Value) :
    (allowedAttacks name stat damage' (rangeValues rs) combinations : Change σ _) =
      allowedAttacks name stat damage (rangeValues rs) combinations := by
  have hsize : (rangeValues rs).size = .ok rs.length := by simp [rangeValues, Value.size]
  simp only [allowedAttacks, hsize, Change.ok_bind, h]

end Tracker

/-- The damage of two attacks lies in the ranges of the same investments, if they hit. -/
def Strike.SameFit (rules : Rules) (s s' : Strike) : Prop :=
  s.hits = true → if s.isMine then s'.defences rules = s.defences rules else s'.attacks rules = s.attacks rules

namespace Tracker

/-- Two events differ in nothing but their damage, which is given by binary64 numbers. -/
structure Alike (event event' : Value) : Prop where
  field : ∀ name, name ∉ ["damage", "pct_damage"] → event'.field name = event.field name
  hits : event'.getOr (.text "move_hits") (.bool true) = event.getOr (.text "move_hits") (.bool true)
  damage : ∃ x, event.field "pct_damage" = .ok (.float x)
  damage' : ∃ x, event'.field "pct_damage" = .ok (.float x)

private theorem learnAttacking_congr {σ : Type} [Store σ] {rs : List (Int × Int)} (h : Alike event event')
    (hlen : rs.length = Investment.waysWithPoints.length)
    (hfit : fitting Investment.waysWithPoints (.ok rs) (event'.field "pct_damage") =
      fitting Investment.waysWithPoints (.ok rs) (event.field "pct_damage")) :
    (learnAttacking event' (rangeValues rs) wayValuesWithPoints : Change σ Unit) =
      learnAttacking event (rangeValues rs) wayValuesWithPoints := by
  obtain ⟨x, hx⟩ := h.damage
  obtain ⟨x', hx'⟩ := h.damage'
  have hpart : ∀ w : Bool × Bool × Bool, defencePart (.list [.bool w.1, .bool w.2.1, .bool w.2.2]) =
      .ok (.bool w.1, .bool w.2.1, .bool w.2.2) := fun _ => rfl
  have hallowed : allowed defencePart (.float x') (rangeValues rs) wayValuesWithPoints rs.length 0 =
      allowed defencePart (.float x) (rangeValues rs) wayValuesWithPoints rs.length 0 := by
    rw [hx, hx'] at hfit
    rw [wayValuesWithPoints, allowed_float hpart hlen, allowed_float hpart hlen, hfit]
  simp only [learnAttacking, h.field "move" (by decide), h.field "def_poke" (by decide), hx, hx', Change.ok_bind,
    allowedDefences_congr hallowed]

private theorem learnDefending_congr {σ : Type} [Store σ] {rs : List (Int × Int)} (h : Alike event event')
    (hlen : rs.length = Investment.ways.length)
    (hfit : fitting Investment.ways (.ok rs) (event'.field "pct_damage") =
      fitting Investment.ways (.ok rs) (event.field "pct_damage")) :
    (learnDefending event' (rangeValues rs) wayValues : Change σ Unit) =
      learnDefending event (rangeValues rs) wayValues := by
  obtain ⟨x, hx⟩ := h.damage
  obtain ⟨x', hx'⟩ := h.damage'
  have hpart : ∀ w : Bool × Bool, attackPart (.list [.bool w.1, .bool w.2]) = .ok (Investment.ofWay w) := fun _ => rfl
  have hallowed : allowed attackPart (.float x') (rangeValues rs) wayValues rs.length 0 =
      allowed attackPart (.float x) (rangeValues rs) wayValues rs.length 0 := by
    rw [hx, hx'] at hfit
    rw [wayValues, allowed_float hpart hlen, allowed_float hpart hlen, hfit]
  simp only [learnDefending, h.field "move" (by decide), h.field "atk_poke" (by decide), hx, hx', Change.ok_bind,
    allowedAttacks_congr hallowed]

private theorem Alike.ranges {ω : Type} (h : Alike event event') (fill : Outcome (ω → Value)) (ways : List ω) :
    ranges rules event' fill ways = ranges rules event fill ways := by
  simp only [Tracker.ranges, h.field "move" (by decide), h.field "def_poke" (by decide),
    h.field "atk_poke" (by decide)]

/-- What the player's hit teaches depends on the investments that fit. -/
private theorem attacking_congr (h : Alike event event')
    (hfit : (⟨t.mine, me, event'⟩ : Strike).defences rules = (⟨t.mine, me, event⟩ : Strike).defences rules) :
    (do let results ← t.rangesAttacking rules event'
        learnAttacking event' (rangeValues results) wayValuesWithPoints : Change Tracker Unit) = (do
      let results ← t.rangesAttacking rules event
      learnAttacking event (rangeValues results) wayValuesWithPoints) := by
  have hranges : t.rangesAttacking rules event' = t.rangesAttacking rules event := by
    rw [rangesAttacking, h.ranges, rangesAttacking]
  have hview : ∀ e, (⟨t.mine, me, e⟩ : Strike).view.rangesAttacking rules e = t.rangesAttacking rules e :=
    fun _ => rangesAttacking_congr rfl
  rw [Strike.defences, Strike.defences, hview, hview, hranges] at hfit
  rw [hranges]
  rcases hrs : t.rangesAttacking rules event with fault | rs
  · rw [Change.error_bind, Change.error_bind]
  · rw [hrs] at hfit
    rw [Change.ok_bind, Change.ok_bind, learnAttacking_congr h (ranges_ok hrs).2.2 hfit]

/-- What the opponent's hit teaches depends on the investments that fit. -/
private theorem defending_congr (h : Alike event event')
    (hfit : (⟨t.mine, me, event'⟩ : Strike).attacks rules = (⟨t.mine, me, event⟩ : Strike).attacks rules)
    (next : Change Tracker Unit) :
    (do let results ← t.rangesDefending rules event'
        learnDefending event' (rangeValues results) wayValues
        next : Change Tracker Unit) = (do
      let results ← t.rangesDefending rules event
      learnDefending event (rangeValues results) wayValues
      next) := by
  have hranges : t.rangesDefending rules event' = t.rangesDefending rules event := by
    rw [rangesDefending, h.ranges, rangesDefending]
  have hview : ∀ e, (⟨t.mine, me, e⟩ : Strike).view.rangesDefending rules e = t.rangesDefending rules e :=
    fun _ => rangesDefending_congr rfl
  rw [Strike.attacks, Strike.attacks, hview, hview, hranges] at hfit
  rw [hranges]
  rcases hrs : t.rangesDefending rules event with fault | rs
  · rw [Change.error_bind, Change.error_bind]
  · rw [hrs] at hfit
    rw [Change.ok_bind, Change.ok_bind, learnDefending_congr h (ranges_ok hrs).2.2 hfit]

/-- An attack with another damage teaches the same, if the same investments fit. -/
private theorem learnEvent_congr (h : Alike event event')
    (hfit : Strike.SameFit rules ⟨t.mine, me, event⟩ ⟨t.mine, me, event'⟩) :
    (learnEvent rules me event').apply t = (learnEvent rules me event).apply t := by
  have hmove : (learnMove event' : Change Tracker Unit) = learnMove event := by
    simp only [learnMove, h.field "move" (by decide)]
  unfold learnEvent
  rw [h.field "attacker" (by decide), h.hits, hmove]
  rcases hattacker : event.field "attacker" with fault | attacker
  · rw [Change.error_bind, Change.error_bind]
  rcases hhitting : event.getOr (.text "move_hits") (.bool true) with fault | hitting
  · rw [Change.ok_bind, Change.ok_bind, Change.error_bind, Change.error_bind]
  have hmine : (⟨t.mine, me, event⟩ : Strike).isMine = attacker.same me := Strike.isMine_eq hattacker
  have hhits : (⟨t.mine, me, event⟩ : Strike).hits = hitting.truthy := by
    simp [Strike.hits, hhitting, bind, Except.bind, Outcome.holds]
  rw [Strike.SameFit, hmine, hhits] at hfit
  rw [Change.ok_bind, Change.ok_bind, Change.ok_bind, Change.ok_bind]
  cases hm : attacker.same me with
  | true =>
    rw [hm, if_pos rfl] at hfit
    cases hh : hitting.truthy with
    | false => simp only [Bool.false_eq_true, if_false, if_true]
    | true =>
      simp only [if_true]
      rw [Change.get_bind_apply, Change.get_bind_apply, view_eq, attacking_congr h (hfit hh)]
  | false =>
    rw [hm, if_neg Bool.false_ne_true] at hfit
    cases hh : hitting.truthy with
    | false => simp only [Bool.false_eq_true, if_false]
    | true =>
      simp only [Bool.false_eq_true, if_false, if_true]
      rw [Change.get_bind_apply, Change.get_bind_apply, view_eq, defending_congr h (hfit hh)]

/-! ### Reading a turn again -/

private theorem HasFloats.percent (h : HasFloats event) : ∃ x, event.field "pct_damage" = .ok (.float x) := by
  obtain ⟨fields, x, y, rfl, -, hy⟩ := h
  exact ⟨y, by simp [Value.field, Value.item, Value.lookup, hy]⟩

private theorem alike_reduced (hcritical : isCritical event = .ok true) (h : (reduceCritical.apply event).1 = .ok ()) :
    Alike (reduced event) (reduced (reduced event)) where
  field _ hname := field_reduced hname (reduced event)
  hits := getOr_reduced (by decide) _ (reduced event)
  damage := (hasFloats_reduced hcritical h).percent
  damage' := (hasFloats_reduced (by rw [isCritical_reduced, hcritical]) (reduceCritical_again h)).percent

end Tracker

/-- An attack as the one who learns from it sees it. -/
def seen (mine me event : Value) : Strike := ⟨mine, me, Tracker.reduced event⟩

namespace Tracker

/-- An attack whose damage has been reduced before teaches the same, if the same investments fit or it is no critical
hit. -/
private theorem learnAttack_again (h : (reduceCritical.apply event).1 = .ok ())
    (hfit : isCritical event = .ok true → (seen t.mine me event).SameFit rules (seen t.mine me (reduced event))) :
    (learnAttack rules me (reduced event)).apply t = (learnAttack rules me event).apply t := by
  rw [learnAttack, learnAttack, h, reduceCritical_again h, Change.ok_bind, Change.ok_bind]
  rcases hcritical : isCritical event with fault | critical
  · rw [apply_reduceCritical, hcritical] at h
    cases h
  cases critical with
  | true => exact learnEvent_congr (alike_reduced hcritical h) (hfit hcritical)
  | false => rw [reduced_of_not_critical hcritical, reduced_of_not_critical hcritical]

private theorem learnAttack_mine (rules : Rules) (me event : Value) :
    (learnAttack rules me event).Keeps Tracker.mine := by
  refine (Change.keeps_liftM _).bind fun _ => ?_
  exact learnEvent_spares (ignores_of_investment (fun _ _ => rfl) _) (learnMove_spares (fun _ _ => rfl) _)

private theorem forM_learnAttack_again {attacks : List Value} {mine : Value}
    (hok : ∀ e ∈ attacks, (reduceCritical.apply e).1 = .ok ())
    (hfit : ∀ e ∈ attacks, isCritical e = .ok true → (seen mine me e).SameFit rules (seen mine me (reduced e)))
    (hmine : t.mine = mine) :
    ((attacks.map reduced).forM (learnAttack rules me)).apply t = (attacks.forM (learnAttack rules me)).apply t := by
  induction attacks generalizing t with
  | nil => rfl
  | cons e attacks ih =>
    obtain ⟨hok, hoks⟩ := List.forall_mem_cons.1 hok
    obtain ⟨hfit, hfits⟩ := List.forall_mem_cons.1 hfit
    have hkept := learnAttack_mine rules me e t
    rw [List.map_cons, List.forM, List.forM, Change.apply_bind, Change.apply_bind,
      learnAttack_again hok (by rwa [hmine])]
    rcases hlearn : (learnAttack rules me e).apply t with ⟨fault | _, u⟩
    · rfl
    · rw [hlearn] at hkept
      exact ih hoks hfits (hkept.trans hmine)

private theorem hasSwitch_reduced (attacks : List Value) : hasSwitch (attacks.map reduced) = hasSwitch attacks := by
  induction attacks with
  | nil => rfl
  | cons e attacks ih =>
    have hswitch : isSwitch (reduced e) = isSwitch e := by rw [isSwitch, field_reduced (by decide), isSwitch]
    rw [List.map_cons, hasSwitch, hasSwitch, hswitch, ih]

private theorem learnSpeed_reduced {σ : Type} [Store σ] (rules : Rules) (me first second : Value) :
    (learnSpeed rules (.list [reduced first, reduced second]) me : Change σ Unit) =
      learnSpeed rules (.list [first, second]) me := by
  have hitems : ∀ e e' : Value,
      (Value.list [e, e']).item (.int 0) = .ok e ∧ (Value.list [e, e']).item (.int 1) = .ok e' :=
    fun _ _ => ⟨rfl, rfl⟩
  have hfield : ∀ name ∈ ["move", "attacker", "atk_poke", "def_poke"], ∀ e : Value,
      (reduced e).field name = e.field name := by
    intro name hname e
    refine field_reduced ?_ e
    simp only [List.mem_cons, List.not_mem_nil, or_false] at hname
    rcases hname with rfl | rfl | rfl | rfl <;> decide
  simp only [learnSpeed, hitems, Outcome.ok_bind, Change.ok_bind, hfield "move" (by decide),
    hfield "attacker" (by decide), hfield "atk_poke" (by decide), hfield "def_poke" (by decide)]

/-- The order of attacks does not depend on their damage. -/
private theorem learnOrder_reduced {σ : Type} [Store σ] (rules : Rules) (me : Value) (attacks : List Value) :
    (learnOrder rules me (attacks.map reduced) : Change σ Unit) = learnOrder rules me attacks := by
  rw [learnOrder, learnOrder, List.length_map, hasSwitch_reduced]
  rcases attacks with _ | ⟨first, _ | ⟨second, _ | ⟨third, attacks⟩⟩⟩
  · rfl
  · simp
  · rw [List.map_cons, List.map_singleton, learnSpeed_reduced]
  · simp

/-- An event after it has been learned from. -/
def afterReading (event : Value) : Value := if (isAttack event).holds then reduced event else event

private theorem isAttack_afterReading (event : Value) : isAttack (afterReading event) = isAttack event := by
  unfold afterReading
  split
  · exact isAttack_reduced event
  · rfl

private theorem sifted_afterReading (events : List Value) :
    sifted (.list (events.map afterReading)) = (sifted (.list events)).map (List.map reduced) := by
  induction events with
  | nil => rfl
  | cons e events ih =>
    rw [List.map_cons, sifted_cons, sifted_cons, isAttack_afterReading, ih, afterReading]
    rcases isAttack e with fault | attacks
    · rfl
    rcases sifted (.list events) with fault | rest
    · rfl
    · cases attacks <;> rfl

private theorem map_zip_marks {events : List Value} {marks : List Bool} (h : events.mapM isAttack = .ok marks) :
    ((marks.zip events).map fun e => if e.1 then reduced e.2 else e.2) = events.map afterReading := by
  induction events generalizing marks with
  | nil => simp
  | cons e events ih =>
    rw [List.mapM_cons, Outcome.bind_eq_ok] at h
    obtain ⟨mark, hmark, h⟩ := h
    rw [Outcome.bind_eq_ok] at h
    obtain ⟨rest, hrest, h⟩ := h
    cases h
    rw [List.zip_cons_cons, List.map_cons, List.map_cons, ih hrest, afterReading, hmark]
    rfl

/-- A turn that was learned from without a fault is left with the damage of all its critical hits reduced. -/
private theorem learnTurn_list {events : List Value} {turn' : Value}
    (h : learnTurn rules me (.list events) t = (turn', .ok (), t')) : turn' = .list (events.map afterReading) := by
  have helements : (Value.list events).elements = .ok events := rfl
  unfold learnTurn readTurn at h
  rcases hmarks : events.mapM isAttack with fault | marks
  · simp [helements, hmarks, Except.bind, Except.map] at h
  simp only [helements, hmarks, Except.bind, Except.map] at h
  rcases hevents : learnEvents rules me (marks.zip events) t with ⟨events', fault | _, u⟩
  · simp [hevents] at h
  · simp only [hevents, Prod.mk.injEq] at h
    rw [← h.1, withEvents, learnEvents_events hevents, ← map_zip_marks hmarks]
    rfl

/-- Where a turn was learned from without a fault, the damage of each attack could be reduced. -/
private theorem reduceCritical_of_learnTurn (h : (learnTurn rules me turn t).2 = (.ok (), t')) :
    ∀ e ∈ attacksIn turn, (reduceCritical.apply e).1 = .ok () := by
  rw [learnTurn_eq, Change.liftM_bind_eq_ok] at h
  obtain ⟨attacks, hattacks, h⟩ := h
  obtain rfl := attacksIn_of_sifted hattacks
  rw [learnAttacks, Change.bind_eq_ok] at h
  obtain ⟨_, u, hlearn, -⟩ := h
  intro e he
  obtain ⟨u, u', hattack⟩ := Change.exists_of_forM hlearn e he
  rw [learnAttack, Change.liftM_bind_eq_ok] at hattack
  exact hattack.choose_spec.1

private theorem sifted_of_learnTurn (h : (learnTurn rules me turn t).2.1 = .ok ()) :
    sifted turn = .ok (attacksIn turn) := by
  have hlearned : (learnTurn rules me turn t).2 = (.ok (), (learnTurn rules me turn t).2.2) := Prod.ext h rfl
  rw [learnTurn_eq, Change.liftM_bind_eq_ok] at hlearned
  obtain ⟨attacks, hattacks, -⟩ := hlearned
  rw [attacksIn_of_sifted hattacks, hattacks]

/-- A turn that was learned from before teaches the same, if the same investments fit after each critical hit. -/
private theorem learnTurn_again {events : List Value}
    (hok : ∀ e ∈ attacksIn (.list events), (reduceCritical.apply e).1 = .ok ())
    (hfit : ∀ e ∈ attacksIn (.list events), isCritical e = .ok true →
      (seen t.mine me e).SameFit rules (seen t.mine me (reduced e))) :
    (learnTurn rules me (.list (events.map afterReading)) t).2 = (learnTurn rules me (.list events) t).2 := by
  rw [learnTurn_eq, learnTurn_eq, sifted_afterReading]
  rcases hattacks : sifted (.list events) with fault | attacks
  · rw [Except.map, Change.error_bind]
  obtain rfl := attacksIn_of_sifted hattacks
  rw [Except.map, Change.ok_bind, Change.ok_bind, learnAttacks, learnAttacks, learnOrder_reduced, Change.apply_bind,
    Change.apply_bind, forM_learnAttack_again hok hfit rfl]

end Tracker

/-! ### A single attack -/

private theorem landsOn_seen_reduced (mine me event : Value) (p : String) :
    (seen mine me (Tracker.reduced event)).landsOn p = (seen mine me event).landsOn p := by
  have hmine : (seen mine me (Tracker.reduced event)).isMine = (seen mine me event).isMine :=
    Tracker.isMine_reduceCritical mine me (Tracker.reduced event)
  have hhits : (seen mine me (Tracker.reduced event)).hits = (seen mine me event).hits := by
    rw [Strike.hits, Strike.hits, seen, seen, Tracker.getOr_reduced (by decide)]
  rw [Strike.landsOn, Strike.landsOn, hmine, hhits, seen, seen, Tracker.field_reduced (by decide)]

private theorem defenceStat_seen_reduced (mine me event : Value) :
    (seen mine me (Tracker.reduced event)).defenceStat = (seen mine me event).defenceStat := by
  rw [Strike.defenceStat, Strike.defenceStat, Strike.isPhysical, Strike.isPhysical, seen, seen,
    Tracker.field_reduced (by decide)]

namespace Tracker

/-- A first hit of the player on a creature leaves as possible what fits. -/
private theorem first_hit {p : String} (hsifted : sifted turn = .ok [event])
    (hlands : (seen t.mine me event).landsOn p = true)
    (hnew : (t.knowledge p).get? (seen t.mine me event).defenceStat = none)
    (h : (learnTurn rules me turn t).2 = (.ok (), t')) :
    (t'.knowledge p).get? (seen t.mine me event).defenceStat =
      some (((seen t.mine me event).defences rules).map fun w => Investment.ofWay (w.1, w.2.1)) ∧
    (t'.knowledge p).get? "hp" =
      some (((seen t.mine me event).defences rules).map fun w => Investment.ofPoints w.2.2) := by
  unfold seen at hlands hnew ⊢
  rw [learnTurn_single hsifted, learnAttack, Change.liftM_bind_eq_ok] at h
  obtain ⟨_, -, h⟩ := h
  rcases learnEvent_cases h with ⟨q, hq, hstep⟩ | ⟨q, hq, -⟩ | ⟨hmiss, -⟩
  · obtain rfl := Strike.landsOn_unique hlands hq
    have hfirst := hstep.first (by rw [possible, hnew]; rfl)
    rwa [Fields.has, hnew] at hfirst
  · rw [Strike.not_comesFrom_of_landsOn hlands] at hq
    cases hq
  · rw [Strike.hits_of_landsOn hlands] at hmiss
    cases hmiss

/-- The investments in a defence and in the hit points tell which ways they were made of. -/
private theorem eq_of_map_investments {ways ways' : List (Bool × Bool × Bool)}
    (hway : (ways'.map fun w => Investment.ofWay (w.1, w.2.1)) = ways.map fun w => Investment.ofWay (w.1, w.2.1))
    (hpoints : (ways'.map fun w => Investment.ofPoints w.2.2) = ways.map fun w => Investment.ofPoints w.2.2) :
    ways' = ways := by
  induction ways generalizing ways' with
  | nil => exact List.map_eq_nil_iff.1 hway
  | cons w ways ih =>
    cases ways' with
    | nil => cases hway
    | cons w' ways' =>
      rw [List.map_cons, List.map_cons, List.cons.injEq] at hway hpoints
      have hw : w' = w := by
        obtain ⟨full, favourable, points⟩ := w
        obtain ⟨full', favourable', points'⟩ := w'
        simpa [Investment.ofWay, Investment.ofParts, Investment.ofPoints, Investment.ofEffort, and_assoc] using
          And.intro hway.1 hpoints.1
      rw [hw, ih hway.2 hpoints.2]

end Tracker

/-- A turn that someone has learned from without a fault is left with the damage of its critical hits reduced.  The next
one who learns from it comes to the same as from a copy of the turn as it was, if after each critical hit the reduced
damage lies in the ranges of the same investments when it is reduced once more.  If the turn has one attack only, and
this is a hit of that player on a creature of whose defence nothing is known, then only if. -/
theorem second_reading_agrees {rules : Rules} {a turn' : Value} {A A' : Tracker} {events : List Value}
    (hfirst : Tracker.learnTurn rules a (.list events) A = (turn', .ok (), A')) (b : Value) (B : Tracker) :
    turn' = .list (events.map Tracker.afterReading) ∧
    ((∀ e ∈ attacksIn (.list events), Tracker.isCritical e = .ok true →
        (seen B.mine b e).SameFit rules (seen B.mine b (Tracker.reduced e))) →
      (Tracker.learnTurn rules b turn' B).2 = (Tracker.learnTurn rules b (.list events) B).2) ∧
    ∀ e p, attacksIn (.list events) = [e] → (seen B.mine b e).landsOn p = true →
      (B.knowledge p).get? (seen B.mine b e).defenceStat = none →
      (Tracker.learnTurn rules b (.list events) B).2.1 = .ok () →
      ((Tracker.learnTurn rules b turn' B).2 = (Tracker.learnTurn rules b (.list events) B).2 ↔
        (seen B.mine b (Tracker.reduced e)).defences rules = (seen B.mine b e).defences rules) := by
  have hok := Tracker.reduceCritical_of_learnTurn (congrArg Prod.snd hfirst)
  obtain rfl := Tracker.learnTurn_list hfirst
  refine ⟨rfl, Tracker.learnTurn_again hok, fun e p hsingle hlands hnew hlearned => ⟨fun hsame => ?_, fun hfit => ?_⟩⟩
  · have hsifted : Tracker.sifted (.list events) = .ok [e] := by
      rw [← hsingle]
      exact Tracker.sifted_of_learnTurn hlearned
    have hsifted' : Tracker.sifted (.list (events.map Tracker.afterReading)) = .ok [Tracker.reduced e] := by
      rw [Tracker.sifted_afterReading, hsifted]
      rfl
    have hcopy : (Tracker.learnTurn rules b (.list events) B).2 =
        (.ok (), (Tracker.learnTurn rules b (.list events) B).2.2) := Prod.ext hlearned rfl
    -- both readings leave as possible what fits
    obtain ⟨hdefence, hpoints⟩ := Tracker.first_hit hsifted hlands hnew hcopy
    obtain ⟨hdefence', hpoints'⟩ := Tracker.first_hit hsifted' (by rwa [landsOn_seen_reduced])
      (by rwa [defenceStat_seen_reduced]) (hsame.trans hcopy)
    rw [defenceStat_seen_reduced, hdefence, Option.some.injEq] at hdefence'
    rw [hpoints, Option.some.injEq] at hpoints'
    exact Tracker.eq_of_map_investments hdefence'.symm hpoints'.symm
  · refine Tracker.learnTurn_again hok fun e' he' _ _ => ?_
    rw [hsingle, List.mem_singleton] at he'
    subst he'
    rw [if_pos (Strike.isMine_of_landsOn hlands)]
    exact hfit

namespace Sample

/-- The tracker of the opponent, who sees the same battle from the other side. -/
def across : Tracker :=
  (((Call.update
    (.record [("active", .creature
      [("name", .text "floatzel"), ("evs", .record []), ("increase_stat", .null), ("speed", .int 266)])])
    (.record [("active", .record [("name", .text "spinda")])])).perform Rules.standard).apply Tracker.start).2

/-- A critical hit that does more damage than any investment allows, and an attack from the other side. -/
def crushing : List Value := [mine true 300 true, theirs 60 false]

/-- A critical hit. -/
def critical : List Value := [mine true 72 true]

end Sample

/-- The opponent learns from a turn, and the player then learns from it what a copy of the turn would have told. -/
theorem sample_second_reading_agrees :
    ∃ turn' A', Tracker.learnTurn .standard (.text "you") (.list Sample.crushing) Sample.across = (turn', .ok (), A') ∧
      (Sample.crushing.map fun e => (Tracker.isCritical e).toOption) = [some true, some false] ∧
      (Tracker.learnTurn .standard (.text "me") turn' Sample.faced).2 =
        (Tracker.learnTurn .standard (.text "me") (.list Sample.crushing) Sample.faced).2 := by
  have hevaluated :
      (Tracker.learnTurn .standard (.text "you") (.list Sample.crushing) Sample.across).2.1.isOk = true ∧
      (Sample.crushing.map fun e => (Tracker.isCritical e).toOption) = [some true, some false] ∧
      ∀ e ∈ attacksIn (.list Sample.crushing), (Tracker.isCritical e).toOption = some true →
        (seen Sample.faced.mine (.text "me") e).isMine = true ∧
        (seen Sample.faced.mine (.text "me") (Tracker.reduced e)).defences .standard =
          (seen Sample.faced.mine (.text "me") e).defences .standard := by
    decide +kernel
  obtain ⟨hok, hcritical, hfit⟩ := hevaluated
  rcases hfirst : Tracker.learnTurn .standard (.text "you") (.list Sample.crushing) Sample.across with ⟨turn', o, A'⟩
  rw [hfirst] at hok
  obtain rfl := Outcome.eq_ok_of_isOk hok
  refine ⟨turn', A', rfl, hcritical, (second_reading_agrees hfirst _ _).2.1 fun e he hcrit _ => ?_⟩
  obtain ⟨hmine, hsame⟩ := hfit e he (by rw [hcrit]; rfl)
  rw [if_pos hmine]
  exact hsame

/-- The opponent learns from a turn with a critical hit, and the player then learns from it what a copy of the turn
would not have told. -/
theorem second_reading_differs :
    Reachable .standard Sample.across ∧ Reachable .standard Sample.faced ∧
    ∃ turn' A' t t',
      Tracker.learnTurn .standard (.text "you") (.list Sample.critical) Sample.across = (turn', .ok (), A') ∧
      (Tracker.learnTurn .standard (.text "me") (.list Sample.critical) Sample.faced).2 = (.ok (), t) ∧
      (Tracker.learnTurn .standard (.text "me") turn' Sample.faced).2 = (.ok (), t') ∧
      ((t.knowledge "floatzel").get? "def").map List.length = some 3 ∧
      ((t'.knowledge "floatzel").get? "def").map List.length = some 1 := by
  have hevaluated :
      (Tracker.learnTurn .standard (.text "you") (.list Sample.critical) Sample.across).2.1.isOk = true ∧
      (Tracker.learnTurn .standard (.text "me") (.list Sample.critical) Sample.faced).2.1.isOk = true ∧
      (((Tracker.learnTurn .standard (.text "me") (.list Sample.critical) Sample.faced).2.2.knowledge
        "floatzel").get? "def").map List.length = some 3 ∧
      (Tracker.learnTurn .standard (.text "me")
        (Tracker.learnTurn .standard (.text "you") (.list Sample.critical) Sample.across).1
        Sample.faced).2.1.isOk = true ∧
      (((Tracker.learnTurn .standard (.text "me")
        (Tracker.learnTurn .standard (.text "you") (.list Sample.critical) Sample.across).1 Sample.faced).2.2.knowledge
        "floatzel").get? "def").map List.length = some 1 := by
    decide +kernel
  obtain ⟨hok, hcopied, hthree, hshared, hone⟩ := hevaluated
  have hacross : Reachable .standard Sample.across := Reachable.start.call _
  have hfaced : Reachable .standard Sample.faced := Reachable.start.call _
  rcases hfirst : Tracker.learnTurn .standard (.text "you") (.list Sample.critical) Sample.across with ⟨turn', o, A'⟩
  rw [hfirst] at hok hshared hone
  obtain rfl := Outcome.eq_ok_of_isOk hok
  rcases hcopy : (Tracker.learnTurn .standard (.text "me") (.list Sample.critical) Sample.faced).2 with ⟨o, t⟩
  rw [hcopy] at hcopied hthree
  obtain rfl := Outcome.eq_ok_of_isOk hcopied
  rcases hsecond : (Tracker.learnTurn .standard (.text "me") turn' Sample.faced).2 with ⟨o, t'⟩
  rw [hsecond] at hshared hone
  obtain rfl := Outcome.eq_ok_of_isOk hshared
  exact ⟨hacross, hfaced, turn', A', t, t', rfl, rfl, hsecond, hthree, hone⟩

end Docsmith.Battle
