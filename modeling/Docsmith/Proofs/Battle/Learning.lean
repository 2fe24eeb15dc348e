import Docsmith.Proofs.Battle.Strike
import Docsmith.Proofs.Value.Access

/-!
# What a call changes

For each part of a call that succeeds, what it does to the knowledge of creatures.  An attack changes one creature and
at most two of its stats (`ChangesOnly`): the entries whose range contains the damage are taken over if nothing was
known, else those of them that were known are kept, and all entries come back if none are left (`DefenceStep` and
`AttackStep`).  `learnEvent_cases` says that nothing else can happen.
-/

namespace Docsmith

namespace Battle

/-- The entry of an investment in a stat. -/
def Investment.ofWay (way : Bool × Bool) : Value := ofParts (.bool way.1) (.bool way.2)

/-- The entry of an investment in the hit points. -/
def Investment.ofPoints (full : Bool) : Value := ofEffort (.bool full)

namespace Tracker

variable {rules : Rules} {me event : Value} {t t' t'' : Tracker} {p q stat : String} {stats : List String}

/-! ### Changes to one creature -/

/-- What is possible for a stat of a creature; nothing if nothing is known. -/
def possible (t : Tracker) (p stat : String) : List Value := ((t.knowledge p).get? stat).getD []

/-- Only the given stats of one creature may differ between two trackers, and the moves and the opponent's position. -/
structure ChangesOnly (p : String) (stats : List String) (t t' : Tracker) : Prop where
  mine : t'.mine = t.mine
  others : ∀ q, q ≠ p → t'.investment.get? q = t.investment.get? q
  rest : ∀ stat, stat ∉ stats → (t'.knowledge p).get? stat = (t.knowledge p).get? stat

namespace ChangesOnly

theorem refl (p : String) (stats : List String) (t : Tracker) : ChangesOnly p stats t t :=
  ⟨rfl, fun _ _ => rfl, fun _ _ => rfl⟩

theorem trans (h : ChangesOnly p stats t t') (h' : ChangesOnly p stats t' t'') : ChangesOnly p stats t t'' where
  mine := h'.mine.trans h.mine
  others q hq := (h'.others q hq).trans (h.others q hq)
  rest stat hs := (h'.rest stat hs).trans (h.rest stat hs)

theorem mono {more : List String} (h : ChangesOnly p stats t t') (hsub : stats ⊆ more) : ChangesOnly p more t t' where
  mine := h.mine
  others := h.others
  rest stat hs := h.rest stat fun hmem => hs (hsub hmem)

theorem knowledge_of_ne (h : ChangesOnly p stats t t') (hq : q ≠ p) : t'.knowledge q = t.knowledge q := by
  rw [knowledge, knowledge, h.others q hq]

/-- A stat that is not among the changed ones, of whichever creature. -/
theorem get?_of_not_mem (h : ChangesOnly p stats t t') (hs : stat ∉ stats) (q : String) :
    (t'.knowledge q).get? stat = (t.knowledge q).get? stat := by
  by_cases hq : q = p
  · subst hq
    exact h.rest stat hs
  · rw [h.knowledge_of_ne hq]

end ChangesOnly

theorem knowledge_put (t : Tracker) (p q : String) (k : Knowledge) :
    knowledge { t with investment := t.investment.put p k } q = if q = p then k else t.knowledge q := by
  unfold knowledge
  rw [Fields.get?_put]
  split <;> rfl

@[simp] theorem view_eq (t : Tracker) : Store.view t = t := rfl

/-- For a tracker it makes no difference whether a list is replaced or changed. -/
theorem changeStat_eq (p stat : String) (vs : List Value) :
    (changeStat p stat vs : Change Tracker Unit) = setStat p stat vs := rfl

theorem apply_setStat (p stat : String) (vs : List Value) (t : Tracker) :
    (setStat p stat vs).apply t = (.ok (), t.withStat p stat vs) := rfl

theorem knowledge_withStat (p stat : String) (vs : List Value) (t : Tracker) :
    (t.withStat p stat vs).knowledge p = (t.knowledge p).put stat vs := by
  rw [withStat, knowledge_put, if_pos rfl]

theorem changesOnly_withStat (h : stat ∈ stats) (vs : List Value) (t : Tracker) :
    ChangesOnly p stats t (t.withStat p stat vs) where
  mine := rfl
  others q hq := Fields.get?_put_of_ne hq _ _
  rest s hs := by
    rw [knowledge_withStat, Fields.get?_put_of_ne]
    rintro rfl
    exact hs h

private theorem setStat_bind_eq_ok {f : Unit → Change Tracker Unit} {vs : List Value} :
    (setStat p stat vs >>= f).apply t = (.ok (), t') ↔ (f ()).apply (t.withStat p stat vs) = (.ok (), t') := by
  rw [Change.apply_bind, apply_setStat]

theorem known_eq_ok {vs : List Value} :
    (known p stat).apply t = (.ok vs, t') ↔ t' = t ∧ (t.knowledge p).get? stat = some vs := by
  unfold known
  rw [Change.get_bind_apply]
  rcases (t.knowledge p).get? stat with _ | us
  · simp
  · simp [and_comm, eq_comm]

theorem known_bind_eq_ok {β : Type} {f : List Value → Change Tracker β} {b : β} :
    (known p stat >>= f).apply t = (.ok b, t') ↔
      ∃ vs, (t.knowledge p).get? stat = some vs ∧ (f vs).apply t = (.ok b, t') := by
  rw [Change.bind_eq_ok]
  constructor
  · rintro ⟨vs, t₁, hk, h⟩
    obtain ⟨rfl, hk⟩ := known_eq_ok.1 hk
    exact ⟨vs, hk, h⟩
  · rintro ⟨vs, hk, h⟩
    exact ⟨vs, t, known_eq_ok.2 ⟨rfl, hk⟩, h⟩

/-- The tracker with room for a creature. -/
def withRoom (key : String) (t : Tracker) : Tracker :=
  if t.investment.has key then t else { t with investment := t.investment.put key [] }

theorem apply_ensureKnowledge (name : Value) (t : Tracker) :
    (ensureKnowledge name).apply t = match name.keyName with
      | .ok key => (.ok key, t.withRoom key)
      | .error fault => (.error fault, t) := by
  unfold ensureKnowledge withRoom
  rw [Change.apply_bind, Change.apply_liftM]
  cases name.keyName with
  | error fault => rfl
  | ok key =>
    simp only [Change.get_bind_apply]
    cases t.investment.has key <;> rfl

/-- Making room for a creature changes nothing that is known. -/
theorem changesOnly_withRoom (key : String) (t : Tracker) : ChangesOnly key [] t (t.withRoom key) := by
  unfold withRoom
  split
  · exact .refl key [] t
  · next hhas =>
    have hnone : t.knowledge key = [] := by
      rw [knowledge, Option.not_isSome_iff_eq_none.1 hhas, Option.getD_none]
    refine ⟨rfl, fun q hq => Fields.get?_put_of_ne hq _ _, fun s _ => ?_⟩
    rw [knowledge_put, if_pos rfl, hnone]

/-! ### Ways that a damage allows -/

theorem ranges_ok {ω : Type} {fill : Outcome (ω → Value)} {ways : List ω} {rs : List (Int × Int)}
    (h : ranges rules event fill ways = .ok rs) :
    (∃ p, event.field "def_poke" = .ok (.text p)) ∧ (∃ q, event.field "atk_poke" = .ok (.text q)) ∧
      rs.length = ways.length := by
  unfold ranges at h
  simp only [Outcome.bind_eq_ok] at h
  obtain ⟨move, -, defender, hdefender, _, hlookup, attacker, hattacker, _, hlookup', f, -, h⟩ := h
  obtain ⟨p, rfl, -⟩ := Value.lookup_eq_ok hlookup
  obtain ⟨q, rfl, -⟩ := Value.lookup_eq_ok hlookup'
  exact ⟨⟨p, hdefender⟩, ⟨q, hattacker⟩, Outcome.length_of_mapM h⟩

/-- The ranges depend on the player's position and on nothing else that the tracker knows. -/
theorem rangesAttacking_congr (h : t'.mine = t.mine) :
    t'.rangesAttacking rules event = t.rangesAttacking rules event := by
  simp only [rangesAttacking, attackingParams, hasEffort, isFavoured, active, h]

theorem rangesDefending_congr (h : t'.mine = t.mine) :
    t'.rangesDefending rules event = t.rangesDefending rules event := by
  simp only [rangesDefending, defendingParams, hasEffort, isFavoured, active, h]

private theorem inRange_eq_ok {damage : Value} {r : Int × Int} {b : Bool}
    (h : inRange damage (.list [.int r.1, .int r.2]) = .ok b) :
    (((Value.int r.1).le damage).holds && (damage.le (.int r.2)).holds) = b := by
  have h0 : (Value.list [.int r.1, .int r.2]).item (.int 0) = .ok (.int r.1) := rfl
  have h1 : (Value.list [.int r.1, .int r.2]).item (.int 1) = .ok (.int r.2) := rfl
  unfold inRange at h
  rw [h0, Outcome.bind_eq_ok] at h
  obtain ⟨_, ⟨⟩, h⟩ := h
  rw [Outcome.bind_eq_ok] at h
  obtain ⟨low, hlow, h⟩ := h
  rw [hlow]
  cases low with
  | false => simpa [Outcome.holds] using h
  | true =>
    rw [if_pos rfl, h1, Outcome.bind_eq_ok] at h
    obtain ⟨_, ⟨⟩, h⟩ := h
    rw [h]
    rfl

/-- The search from the `i`th way on keeps the ways from there on that fit. -/
private theorem allowed_from {ω α : Type} {enc : ω → Value} {dec : ω → α} {part : Value → Outcome α}
    (hpart : ∀ w, part (enc w) = .ok (dec w)) {ways : List ω} {rs : List (Int × Int)}
    (hlen : rs.length = ways.length) {damage : Value} {count i : Nat} (hcount : count + i = ways.length) {vs : List α}
    (h : allowed part damage (rangeValues rs) (.list (ways.map enc)) count i = .ok vs) :
    vs = (((ways.zip rs).drop i).filter fun wr =>
      ((Value.int wr.2.1).le damage).holds && (damage.le (.int wr.2.2)).holds).map fun wr => dec wr.1 := by
  induction count generalizing i vs with
  | zero =>
    cases h
    rw [List.drop_eq_nil_of_le (by simp; omega)]
    rfl
  | succ count ih =>
    have hi : i < ways.length := by omega
    have hi' : i < rs.length := by omega
    have hrange : (rangeValues rs).item (.int i) = .ok (.list [.int rs[i].1, .int rs[i].2]) :=
      Value.item_list_of_getElem? (by simp [hi'])
    have hway : (Value.list (ways.map enc)).item (.int i) = .ok (enc ways[i]) :=
      Value.item_list_of_getElem? (by simp [hi])
    unfold allowed at h
    simp only [hrange, hway, Outcome.bind_eq_ok, Except.ok.injEq, exists_eq_left'] at h
    obtain ⟨b, hb, h⟩ := h
    have hfit := inRange_eq_ok hb
    rw [List.drop_eq_getElem_cons (by simp; omega), List.getElem_zip, List.filter_cons]
    simp only [hfit]
    cases b with
    | false => exact ih (by omega) h
    | true =>
      simp only [if_true, hpart, Outcome.bind_eq_ok, Except.ok.injEq, exists_eq_left'] at h
      obtain ⟨rest, hrest, rfl⟩ := h
      simp [ih (by omega) hrest]

/-- The search keeps the ways that fit. -/
theorem allowed_eq_ok {ω α : Type} {enc : ω → Value} {dec : ω → α} {part : Value → Outcome α}
    (hpart : ∀ w, part (enc w) = .ok (dec w)) {ways : List ω} {rs : List (Int × Int)}
    (hlen : rs.length = ways.length) {damage : Value} {vs : List α}
    (h : allowed part damage (rangeValues rs) (.list (ways.map enc)) rs.length 0 = .ok vs) :
    vs = (fitting ways (.ok rs) (.ok damage)).map dec := by
  rw [hlen] at h
  rw [allowed_from hpart hlen (by omega) h, List.drop_zero, fitting, List.map_map]
  rfl

/-! ### Steps of the inference -/

/-- The entries found that were known before. -/
def kept (before found : List Value) : List Value := found.filter fun v => before.any fun w => w.same v

private theorem keepKnown_eq_ok {vs us : List Value} (h : (keepKnown p stat vs).apply t = (.ok us, t')) :
    t = t' ∧ us = kept (t.possible p stat) vs := by
  unfold keepKnown at h
  cases vs with
  | nil =>
    rw [Change.apply_pure, Prod.mk.injEq, Except.ok.injEq] at h
    exact ⟨h.2, h.1.symm⟩
  | cons v vs =>
    simp only [known_bind_eq_ok, Change.apply_pure, Prod.mk.injEq, Except.ok.injEq] at h
    obtain ⟨before, hbefore, h⟩ := h
    refine ⟨h.2, ?_⟩
    rw [← h.1, possible, hbefore]
    rfl

/-- What the player's attack teaches about a defence and the hit points of a creature, if `ways` fit. -/
structure DefenceStep (p stat : String) (ways : List (Bool × Bool × Bool)) (t t' : Tracker) : Prop where
  only : ChangesOnly p [stat, "hp"] t t'
  first : t.possible p stat = [] →
    (t'.knowledge p).get? stat = some (ways.map fun w => Investment.ofWay (w.1, w.2.1)) ∧
    (t'.knowledge p).get? "hp" =
      if (t.knowledge p).has stat then
        ((t.knowledge p).get? "hp").map (· ++ ways.map fun w => Investment.ofPoints w.2.2)
      else some (ways.map fun w => Investment.ofPoints w.2.2)
  again : t.possible p stat ≠ [] →
    (t'.knowledge p).get? stat =
      some (orAll (kept (t.possible p stat) (ways.map fun w => Investment.ofWay (w.1, w.2.1))) Investment.all) ∧
    (t'.knowledge p).get? "hp" =
      some (orAll (kept (t.possible p "hp") (ways.map fun w => Investment.ofPoints w.2.2)) Investment.allPoints)

/-- What the opponent's attack teaches about an attack of a creature, if `ways` fit. -/
structure AttackStep (p stat : String) (ways : List (Bool × Bool)) (t t' : Tracker) : Prop where
  only : ChangesOnly p [stat] t t'
  first : t.possible p stat = [] →
    (t'.knowledge p).get? stat = some (orAll (ways.map Investment.ofWay) Investment.all)
  again : t.possible p stat ≠ [] →
    (t'.knowledge p).get? stat =
      some (orAll (kept (t.possible p stat) (ways.map Investment.ofWay)) Investment.all)

/-- Entries are added at the end of both lists. -/
private theorem addDefences_ok (hstat : stat ≠ "hp") {ds : List (Value × Value)}
    (h : (addDefences p stat ds).apply t = (.ok (), t')) :
    ChangesOnly p [stat, "hp"] t t' ∧
    (t'.knowledge p).get? stat = ((t.knowledge p).get? stat).map (· ++ ds.map (·.1)) ∧
    (t'.knowledge p).get? "hp" = ((t.knowledge p).get? "hp").map (· ++ ds.map (·.2)) := by
  induction ds generalizing t with
  | nil =>
    rw [addDefences, Change.apply_pure, Prod.mk.injEq] at h
    obtain ⟨-, rfl⟩ := h
    simp [ChangesOnly.refl]
  | cons d ds ih =>
    obtain ⟨defence, points⟩ := d
    rw [addDefences, known_bind_eq_ok] at h
    obtain ⟨vs, hvs, h⟩ := h
    rw [changeStat_eq, setStat_bind_eq_ok, known_bind_eq_ok] at h
    obtain ⟨hs, hhs, h⟩ := h
    rw [changeStat_eq, setStat_bind_eq_ok] at h
    rw [knowledge_withStat, Fields.get?_put_of_ne hstat.symm] at hhs
    obtain ⟨honly, hstat', hpoints'⟩ := ih h
    refine ⟨((changesOnly_withStat (by simp) _ t).trans (changesOnly_withStat (by simp) _ _)).trans honly, ?_, ?_⟩
    · rw [hstat', knowledge_withStat, Fields.get?_put_of_ne hstat, knowledge_withStat, Fields.get?_put_self, hvs]
      simp
    · rw [hpoints', knowledge_withStat, Fields.get?_put_self, hhs]
      simp

/-- Both lists are cut down to what was known, and filled up if nothing is left. -/
private theorem narrowDefences_ok (hstat : stat ≠ "hp") {ds : List (Value × Value)}
    (h : (narrowDefences p stat ds).apply t = (.ok (), t')) :
    ChangesOnly p [stat, "hp"] t t' ∧
    (t'.knowledge p).get? stat = some (orAll (kept (t.possible p stat) (ds.map (·.1))) Investment.all) ∧
    (t'.knowledge p).get? "hp" = some (orAll (kept (t.possible p "hp") (ds.map (·.2))) Investment.allPoints) := by
  unfold narrowDefences at h
  rw [Change.bind_eq_ok] at h
  obtain ⟨vs, _, hvs, h⟩ := h
  obtain ⟨rfl, rfl⟩ := keepKnown_eq_ok hvs
  rw [setStat_bind_eq_ok, Change.bind_eq_ok] at h
  obtain ⟨hs, _, hhs, h⟩ := h
  obtain ⟨rfl, rfl⟩ := keepKnown_eq_ok hhs
  have hpoints : ∀ us, (t.withStat p stat us).possible p "hp" = t.possible p "hp" := by
    intro us
    rw [possible, possible, knowledge_withStat, Fields.get?_put_of_ne hstat.symm]
  simp only [setStat_bind_eq_ok, known_bind_eq_ok, apply_setStat, knowledge_withStat, Fields.get?_put_self,
    Fields.get?_put_of_ne hstat, Fields.get?_put_of_ne hstat.symm, Option.some.injEq, exists_eq_left', hpoints,
    Prod.mk.injEq, true_and] at h
  subst h
  refine ⟨?_, ?_, ?_⟩
  · repeat first
      | exact .refl _ _ _
      | refine ChangesOnly.trans ?_ (changesOnly_withStat (by simp) _ _)
  · simp [knowledge_withStat, hstat]
  · simp [knowledge_withStat]

/-- Both searches make room for the creature, make the stat known if it is not, and go through the ranges. -/
private theorem apply_search {β : Type} (setUp : String → String → Change Tracker Unit) {after : Tracker}
    (hsetUp : (setUp p stat).apply (t.withRoom p) = (.ok (), after)) (search : Nat → Outcome β)
    (rs : List (Int × Int)) :
    Change.apply (do
      let count ← (rangeValues rs).size
      let key ← ensureKnowledge (.text p)
      let statKey ← (Value.text stat).keyName
      if !(((← get).knowledge key).has statKey) then setUp key statKey
      search count : Change Tracker β) t =
    (search rs.length, if (t.knowledge p).has stat then t.withRoom p else after) := by
  have hsize : (rangeValues rs).size = .ok rs.length := by simp [rangeValues, Value.size]
  have hhas : ((t.withRoom p).knowledge p).has stat = (t.knowledge p).has stat := by
    rw [Fields.has, Fields.has, (changesOnly_withRoom p t).rest stat (by simp)]
  rw [hsize, Change.apply_bind, Change.apply_liftM]
  simp only [Change.apply_bind, apply_ensureKnowledge, Value.keyName_text, Change.apply_liftM, Change.apply_get, hhas]
  cases (t.knowledge p).has stat with
  | true => rfl
  | false => simp only [Bool.not_false, if_true, Change.apply_bind, hsetUp, Bool.false_eq_true, if_false,
      Change.apply_liftM]

/-- The tracker that the search for defences leaves: a stat that was not known is known now, and the hit points are
forgotten then. -/
def withDefence (p stat : String) (t : Tracker) : Tracker :=
  if (t.knowledge p).has stat then t.withRoom p else ((t.withRoom p).withStat p stat []).withStat p "hp" []

/-- The tracker that the search for attacks leaves. -/
def withAttack (p stat : String) (t : Tracker) : Tracker :=
  if (t.knowledge p).has stat then t.withRoom p else (t.withRoom p).withStat p stat []

theorem apply_allowedDefences (damage combinations : Value) (rs : List (Int × Int)) (t : Tracker) :
    (allowedDefences (.text p) (.text stat) damage (rangeValues rs) combinations).apply t =
      (allowed defencePart damage (rangeValues rs) combinations rs.length 0, t.withDefence p stat) :=
  apply_search (fun key statKey => do
    setStat key statKey []
    setStat key "hp" []) rfl (fun count => allowed defencePart damage (rangeValues rs) combinations count 0) rs

theorem apply_allowedAttacks (damage combinations : Value) (rs : List (Int × Int)) (t : Tracker) :
    (allowedAttacks (.text p) (.text stat) damage (rangeValues rs) combinations).apply t =
      (allowed attackPart damage (rangeValues rs) combinations rs.length 0, t.withAttack p stat) :=
  apply_search (fun key statKey => setStat key statKey []) rfl
    (fun count => allowed attackPart damage (rangeValues rs) combinations count 0) rs

/-- What is known once the search for defences has begun, whether it ends or not. -/
structure DefenceSetUp (p stat : String) (t t' : Tracker) : Prop where
  only : ChangesOnly p [stat, "hp"] t t'
  now : (t'.knowledge p).get? stat = some (t.possible p stat)
  points : (t'.knowledge p).get? "hp" = if (t.knowledge p).has stat then (t.knowledge p).get? "hp" else some []

/-- What is known once the search for attacks has begun, whether it ends or not. -/
structure AttackSetUp (p stat : String) (t t' : Tracker) : Prop where
  only : ChangesOnly p [stat] t t'
  now : (t'.knowledge p).get? stat = some (t.possible p stat)

theorem defenceSetUp_withDefence (hstat : stat ≠ "hp") (t : Tracker) :
    DefenceSetUp p stat t (t.withDefence p stat) := by
  have hroom := changesOnly_withRoom p t
  unfold withDefence
  split
  next hs =>
    obtain ⟨us, hus⟩ := Option.isSome_iff_exists.1 hs
    refine ⟨hroom.mono (by simp), ?_, ?_⟩
    · rw [hroom.rest stat (by simp), possible, hus]
      rfl
    · rw [hroom.rest "hp" (by simp), if_pos hs]
  next hs =>
    have hnone : (t.knowledge p).get? stat = none := Option.not_isSome_iff_eq_none.1 hs
    refine ⟨?_, ?_, ?_⟩
    · exact ((hroom.mono (by simp)).trans (changesOnly_withStat (by simp) _ _)).trans
        (changesOnly_withStat (by simp) _ _)
    · simp [knowledge_withStat, hstat, possible, hnone]
    · simp [knowledge_withStat, hs]

theorem attackSetUp_withAttack (p stat : String) (t : Tracker) : AttackSetUp p stat t (t.withAttack p stat) := by
  have hroom := changesOnly_withRoom p t
  unfold withAttack
  split
  next hs =>
    obtain ⟨us, hus⟩ := Option.isSome_iff_exists.1 hs
    refine ⟨hroom.mono (by simp), ?_⟩
    rw [hroom.rest stat (by simp), possible, hus]
    rfl
  next hs =>
    have hnone : (t.knowledge p).get? stat = none := Option.not_isSome_iff_eq_none.1 hs
    refine ⟨(hroom.mono (by simp)).trans (changesOnly_withStat (by simp) _ _), ?_⟩
    simp [knowledge_withStat, possible, hnone]

/-- A search for defences that ends finds the ways that fit. -/
private theorem allowedDefences_ok (hstat : stat ≠ "hp") {damage : Value} {rs : List (Int × Int)}
    (hlen : rs.length = Investment.waysWithPoints.length) {ways : List (Value × Value × Value)}
    (h : (allowedDefences (.text p) (.text stat) damage (rangeValues rs) wayValuesWithPoints).apply t =
      (.ok ways, t')) :
    ways = (fitting Investment.waysWithPoints (.ok rs) (.ok damage)).map
      (fun w => (.bool w.1, .bool w.2.1, .bool w.2.2)) ∧ DefenceSetUp p stat t t' := by
  have hpart : ∀ w : Bool × Bool × Bool, defencePart (.list [.bool w.1, .bool w.2.1, .bool w.2.2]) =
      .ok (.bool w.1, .bool w.2.1, .bool w.2.2) := fun _ => rfl
  rw [apply_allowedDefences, Prod.mk.injEq] at h
  obtain ⟨hways, rfl⟩ := h
  exact ⟨allowed_eq_ok hpart hlen hways, defenceSetUp_withDefence hstat t⟩

/-- A search for attacks that ends finds the ways that fit. -/
private theorem allowedAttacks_ok {damage : Value} {rs : List (Int × Int)} (hlen : rs.length = Investment.ways.length)
    {ways : List Value}
    (h : (allowedAttacks (.text p) (.text stat) damage (rangeValues rs) wayValues).apply t = (.ok ways, t')) :
    ways = (fitting Investment.ways (.ok rs) (.ok damage)).map Investment.ofWay ∧ AttackSetUp p stat t t' := by
  have hpart : ∀ w : Bool × Bool, attackPart (.list [.bool w.1, .bool w.2]) = .ok (Investment.ofWay w) := fun _ => rfl
  rw [apply_allowedAttacks, Prod.mk.injEq] at h
  obtain ⟨hways, rfl⟩ := h
  exact ⟨allowed_eq_ok hpart hlen hways, attackSetUp_withAttack p stat t⟩

/-- The player's attack teaches about the defence that the strike meets. -/
theorem learnAttacking_ok {s : Strike} {rs : List (Int × Int)} (hp : s.event.field "def_poke" = .ok (.text p))
    (hrs : s.view.rangesAttacking rules s.event = .ok rs)
    (h : (learnAttacking s.event (rangeValues rs) wayValuesWithPoints).apply t = (.ok (), t')) :
    DefenceStep p s.defenceStat (s.defences rules) t t' := by
  obtain ⟨-, -, hlen⟩ := ranges_ok hrs
  unfold learnAttacking at h
  simp only [hp, Change.liftM_bind_eq_ok, Except.ok.injEq, exists_eq_left'] at h
  obtain ⟨move, hmove, damage, hdamage, category, hcategory, h⟩ := h
  have hphysical : s.isPhysical = category.isText "Physical" := by
    simp [Strike.isPhysical, hmove, hcategory, bind, Except.bind, Outcome.holds]
  rw [Strike.defenceStat, defenceName, hphysical, Strike.defences, hrs, Strike.damage, hdamage]
  have hstat : (if category.isText "Physical" then "def" else "spd") ≠ "hp" := by split <;> decide
  generalize (if category.isText "Physical" then "def" else "spd") = stat at h hstat ⊢
  rw [Change.bind_eq_ok] at h
  obtain ⟨ways, t₁, hways, h⟩ := h
  obtain ⟨rfl, honly, hnow, hpoints⟩ := allowedDefences_ok hstat hlen hways
  rw [Value.keyName_text, Change.liftM_bind_eq_ok] at h
  obtain ⟨_, ⟨⟩, h⟩ := h
  rw [known_bind_eq_ok] at h
  obtain ⟨vs, hvs, h⟩ := h
  rw [hnow, Option.some.injEq] at hvs
  have hnow' : t₁.possible p stat = t.possible p stat := by rw [possible, hnow, Option.getD_some]
  by_cases hempty : t.possible p stat = []
  · rw [← hvs, hempty] at h
    obtain ⟨honly', hfirst, hfirst'⟩ := addDefences_ok hstat h
    refine ⟨honly.trans honly', fun _ => ?_, fun hne => absurd hempty hne⟩
    rw [hfirst, hfirst', hnow, hempty, hpoints]
    refine ⟨by simp [Investment.ofWay], ?_⟩
    split <;> simp [Investment.ofPoints, Function.comp_def]
  · have hvs' : vs.isEmpty = false := by simp [← hvs, hempty]
    rw [hvs', if_neg Bool.false_ne_true] at h
    obtain ⟨honly', hagain, hagain'⟩ := narrowDefences_ok hstat h
    refine ⟨honly.trans honly', fun hnil => absurd hnil hempty, fun _ => ?_⟩
    -- the stat was known before, so the hit points have not been forgotten
    have hhas : (t.knowledge p).has stat = true := by
      rw [Fields.has, Option.isSome_iff_ne_none]
      intro hnone
      rw [possible, hnone] at hempty
      exact hempty rfl
    have hpoints' : t₁.possible p "hp" = t.possible p "hp" := by rw [possible, possible, hpoints, if_pos hhas]
    rw [hagain, hagain', hnow', hpoints']
    simp [Investment.ofWay, Investment.ofPoints, Function.comp_def]

/-- The opponent's attack teaches about the attack that the strike is made with. -/
theorem learnDefending_ok {s : Strike} {rs : List (Int × Int)} (hp : s.event.field "atk_poke" = .ok (.text p))
    (hrs : s.view.rangesDefending rules s.event = .ok rs)
    (h : (learnDefending s.event (rangeValues rs) wayValues).apply t = (.ok (), t')) :
    AttackStep p s.attackStat (s.attacks rules) t t' := by
  obtain ⟨-, -, hlen⟩ := ranges_ok hrs
  unfold learnDefending at h
  simp only [hp, Change.liftM_bind_eq_ok, Except.ok.injEq, exists_eq_left'] at h
  obtain ⟨move, hmove, damage, hdamage, category, hcategory, h⟩ := h
  have hphysical : s.isPhysical = category.isText "Physical" := by
    simp [Strike.isPhysical, hmove, hcategory, bind, Except.bind, Outcome.holds]
  rw [Strike.attackStat, hphysical, Strike.attacks, hrs, Strike.damage, hdamage]
  generalize (if category.isText "Physical" then "atk" else "spa") = stat at h ⊢
  rw [Change.bind_eq_ok] at h
  obtain ⟨ways, t₁, hways, h⟩ := h
  obtain ⟨rfl, honly, hnow⟩ := allowedAttacks_ok hlen hways
  rw [Value.keyName_text, Change.liftM_bind_eq_ok] at h
  obtain ⟨_, ⟨⟩, h⟩ := h
  rw [known_bind_eq_ok] at h
  obtain ⟨vs, hvs, h⟩ := h
  rw [hnow, Option.some.injEq] at hvs
  have hnow' : t₁.possible p stat = t.possible p stat := by rw [possible, hnow, Option.getD_some]
  have hset : ∀ us, ChangesOnly p [stat] t (t₁.withStat p stat us) := fun us =>
    honly.trans (changesOnly_withStat (by simp) us t₁)
  by_cases hempty : t.possible p stat = []
  · rw [← hvs, hempty] at h
    simp only [List.isEmpty_nil, if_true, pure_bind, apply_setStat, Prod.mk.injEq, true_and] at h
    subst h
    refine ⟨hset _, fun _ => ?_, fun hne => absurd hempty hne⟩
    rw [knowledge_withStat, Fields.get?_put_self]
  · have hvs' : vs.isEmpty = false := by simp [← hvs, hempty]
    rw [hvs', if_neg Bool.false_ne_true, Change.bind_eq_ok] at h
    obtain ⟨us, t₂, hus, h⟩ := h
    obtain ⟨rfl, rfl⟩ := keepKnown_eq_ok hus
    simp only [apply_setStat, Prod.mk.injEq, true_and] at h
    subst h
    refine ⟨hset _, fun hnil => absurd hnil hempty, fun _ => ?_⟩
    rw [knowledge_withStat, Fields.get?_put_self, hnow']

end Tracker

end Battle

end Docsmith
