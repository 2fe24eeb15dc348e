import Docsmith.Proofs.Battle.Strike

/-!
# The player's own investment

The ranges of an attack depend on the creature that the player has out through a few answers only, its stake: whether
it has effort in the attack and a nature that favours the attack, if it strikes, and the same of the defence and
whether it has effort in the hit points, if it is struck.  `same_ranges_iff_same_stake` says that these answers are
all there is and that none of them can be left out, and that moves that are not physical are no exception: their
ranges follow the attack and the defence too, and never the special attack or the special defence.
-/

namespace Docsmith

namespace Battle

namespace Tracker

variable {rules : Rules} {event : Value} {t t' : Tracker}

/-! ### Stakes -/

/-- Whether the active creature has effort in the attack, and whether its nature favours the attack. -/
def attackStake (t : Tracker) : Outcome (Bool × Bool) := do
  .ok (← t.hasEffort "atk", ← t.isFavoured "attack")

/-- Whether the active creature has effort in the defence, whether its nature favours the defence, and whether it has
effort in the hit points. -/
def defenceStake (t : Tracker) : Outcome (Bool × Bool × Bool) := do
  .ok (← t.hasEffort "def", ← t.isFavoured "defense", ← t.hasEffort "hp")

/-- The options of one's own investment in a stat. -/
def ownOptions (stake : Bool × Bool) : Fields Value :=
  optionIf "max_evs" stake.1 ++ optionIf "positive_nature" stake.2

/-- The options of the player's attack with a stake. -/
def attackFill (stake : Bool × Bool) (way : Bool × Bool × Bool) : Value :=
  params (ownOptions stake) (options (way.1, way.2.1)) [("max_evs", .bool way.2.2)]

/-- The options of the opponent's attack on a stake. -/
def defenceFill (stake : Bool × Bool × Bool) (way : Bool × Bool) : Value :=
  params (options way) (ownOptions (stake.1, stake.2.1)) (optionIf "max_evs" stake.2.2)

private theorem attackingParams_eq (t : Tracker) : t.attackingParams = t.attackStake.map attackFill := by
  unfold attackingParams attackStake
  cases t.hasEffort "atk" with
  | error e => rfl
  | ok effort => cases t.isFavoured "attack" <;> rfl

private theorem defendingParams_eq (t : Tracker) : t.defendingParams = t.defenceStake.map defenceFill := by
  unfold defendingParams defenceStake
  cases t.hasEffort "def" with
  | error e => rfl
  | ok effort =>
    cases t.isFavoured "defense" with
    | error e => rfl
    | ok favoured => cases t.hasEffort "hp" <;> rfl

private theorem rangesAttacking_of_stake (h : t.attackStake = t'.attackStake) :
    t.rangesAttacking rules event = t'.rangesAttacking rules event := by
  rw [rangesAttacking, rangesAttacking, attackingParams_eq, attackingParams_eq, h]

private theorem rangesDefending_of_stake (h : t.defenceStake = t'.defenceStake) :
    t.rangesDefending rules event = t'.rangesDefending rules event := by
  rw [rangesDefending, rangesDefending, defendingParams_eq, defendingParams_eq, h]

/-! ### Probes -/

/-- The least damage in the first of the ranges. -/
def leastDamage (rs : Outcome (List (Int × Int))) : Option Int := do (← (← rs.toOption).head?).1

/-- A fault in finding the options is the fault of the ranges, because the attack itself is read before. -/
private theorem ranges_error {ω : Type} {fill : ω → Value} {ways : List ω} {rs : List (Int × Int)}
    (h : ranges rules event (.ok fill) ways = .ok rs) (e : Fault) :
    ranges rules event (.error e : Outcome (ω → Value)) ways = .error e := by
  simp only [ranges, Outcome.bind_eq_ok] at h
  obtain ⟨move, hmove, target, htarget, defender, hdefender, striker, hstriker, attacker, hattacker, -⟩ := h
  simp only [ranges, hmove, htarget, hdefender, hstriker, hattacker, Outcome.ok_bind]
  rfl

section

variable {ω σ : Type} {fill : σ → ω → Value} {ways : List ω} {least : σ → Int} {o o' : Outcome σ}

private theorem ranges_of_leastDamage {fill : Outcome (ω → Value)} {n : Int}
    (h : leastDamage (ranges rules event fill ways) = some n) : ∃ rs, ranges rules event fill ways = .ok rs := by
  cases hrs : ranges rules event fill ways with
  | ok rs => exact ⟨rs, rfl⟩
  | error e =>
    rw [hrs] at h
    cases h

/-- An attack whose least damage tells the stakes apart tells apart whatever comes out of asking for them. -/
private theorem eq_of_ranges_eq [Inhabited σ]
    (hleast : ∀ s, leastDamage (ranges rules event (.ok (fill s)) ways) = some (least s))
    (hinj : ∀ s s', least s = least s' → s = s')
    (h : ranges rules event (o.map fill) ways = ranges rules event (o'.map fill) ways) : o = o' := by
  have hok s := ranges_of_leastDamage (hleast s)
  have herror e : ranges rules event (.error e : Outcome (ω → Value)) ways = .error e :=
    ranges_error (hok default).choose_spec e
  cases o with
  | ok s =>
    cases o' with
    | ok s' =>
      have hsame : some (least s) = some (least s') :=
        calc some (least s) = leastDamage (ranges rules event (.ok (fill s)) ways) := (hleast s).symm
          _ = leastDamage (ranges rules event (.ok (fill s')) ways) := congrArg leastDamage h
          _ = some (least s') := hleast s'
      rw [hinj s s' (Option.some.inj hsame)]
    | error e =>
      obtain ⟨rs, hrs⟩ := hok s
      cases hrs.symm.trans (h.trans (herror e))
  | error e =>
    cases o' with
    | ok s =>
      obtain ⟨rs, hrs⟩ := hok s
      cases (herror e).symm.trans (h.trans hrs)
    | error e' =>
      cases (herror e).symm.trans (h.trans (herror e'))
      rfl

end

/-- Whether the move of an event is physical. -/
def moveIsPhysical (event : Value) : Outcome Bool := do
  .ok ((← (← event.field "move").field "category").isText "Physical")

/-- An attack that is not physical, with a move so strong that every investment shows in its ranges. -/
def probe (striker target : String) : Value :=
  .record
    [("move", (Rules.moveEntry "hydrocannon" "Water" "Special" 800 0).2), ("atk_poke", .text striker),
     ("def_poke", .text target)]

private theorem moveIsPhysical_probe (striker target : String) :
    moveIsPhysical (probe striker target) = .ok false := rfl

/-- The least damage of the probe with a stake. -/
def leastDealt : Bool × Bool → Int
  | (false, false) => 105
  | (false, true) => 115
  | (true, false) => 147
  | (true, true) => 162

/-- The least damage of the probe on a stake. -/
def leastTaken : Bool × Bool × Bool → Int
  | (false, false, false) => 433
  | (false, false, true) => 349
  | (false, true, false) => 394
  | (false, true, true) => 317
  | (true, false, false) => 308
  | (true, false, true) => 248
  | (true, true, false) => 280
  | (true, true, true) => 226

private theorem leastDamage_dealt (stake : Bool × Bool) :
    leastDamage (ranges Rules.standard (probe "spinda" "floatzel") (.ok (attackFill stake))
      Investment.waysWithPoints) = some (leastDealt stake) := by
  obtain ⟨_ | _, _ | _⟩ := stake <;> decide +kernel

private theorem leastDamage_taken (stake : Bool × Bool × Bool) :
    leastDamage (ranges Rules.standard (probe "floatzel" "spinda") (.ok (defenceFill stake)) Investment.ways) =
      some (leastTaken stake) := by
  obtain ⟨_ | _, _ | _, _ | _⟩ := stake <;> decide +kernel

private theorem leastDealt_inj (s s' : Bool × Bool) (h : leastDealt s = leastDealt s') : s = s' := by
  obtain ⟨_ | _, _ | _⟩ := s <;> obtain ⟨_ | _, _ | _⟩ := s' <;> first | rfl | cases h

private theorem leastTaken_inj (s s' : Bool × Bool × Bool) (h : leastTaken s = leastTaken s') : s = s' := by
  obtain ⟨_ | _, _ | _, _ | _⟩ := s <;> obtain ⟨_ | _, _ | _, _ | _⟩ := s' <;> first | rfl | cases h

private theorem attackStake_of_probe
    (h : t.rangesAttacking Rules.standard (probe "spinda" "floatzel") =
      t'.rangesAttacking Rules.standard (probe "spinda" "floatzel")) : t.attackStake = t'.attackStake := by
  rw [rangesAttacking, rangesAttacking, attackingParams_eq, attackingParams_eq] at h
  exact eq_of_ranges_eq leastDamage_dealt leastDealt_inj h

private theorem defenceStake_of_probe
    (h : t.rangesDefending Rules.standard (probe "floatzel" "spinda") =
      t'.rangesDefending Rules.standard (probe "floatzel" "spinda")) : t.defenceStake = t'.defenceStake := by
  rw [rangesDefending, rangesDefending, defendingParams_eq, defendingParams_eq] at h
  exact eq_of_ranges_eq leastDamage_taken leastTaken_inj h

end Tracker

/-! ### What the ranges depend on -/

open Tracker in
/-- Two players get the same ranges for every attack of theirs with a move that is not physical exactly if they do so
for every attack, and exactly if the creatures they have out agree in their effort in the attack and in a nature that
favours it.  The same holds for the attacks on them, with the defence and the hit points. -/
theorem same_ranges_iff_same_stake (t t' : Tracker) :
    ((∀ rules event, moveIsPhysical event = .ok false →
        t.rangesAttacking rules event = t'.rangesAttacking rules event) ↔ t.attackStake = t'.attackStake) ∧
    ((∀ rules event, t.rangesAttacking rules event = t'.rangesAttacking rules event) ↔
      t.attackStake = t'.attackStake) ∧
    ((∀ rules event, moveIsPhysical event = .ok false →
        t.rangesDefending rules event = t'.rangesDefending rules event) ↔ t.defenceStake = t'.defenceStake) ∧
    ((∀ rules event, t.rangesDefending rules event = t'.rangesDefending rules event) ↔
      t.defenceStake = t'.defenceStake) := by
  refine ⟨⟨fun h => ?_, fun h _ _ _ => rangesAttacking_of_stake h⟩,
    ⟨fun h => ?_, fun h _ _ => rangesAttacking_of_stake h⟩,
    ⟨fun h => ?_, fun h _ _ _ => rangesDefending_of_stake h⟩,
    ⟨fun h => ?_, fun h _ _ => rangesDefending_of_stake h⟩⟩
  · exact attackStake_of_probe (h _ _ (moveIsPhysical_probe _ _))
  · exact attackStake_of_probe (h _ _)
  · exact defenceStake_of_probe (h _ _ (moveIsPhysical_probe _ _))
  · exact defenceStake_of_probe (h _ _)

namespace Sample

/-- A tracker of a player whose creature has some effort and a nature. -/
def invested (effort : Fields Value) (nature : Value) : Tracker :=
  { Tracker.start with
    mine := .record
      [("active", .creature
        [("name", .text "spinda"), ("evs", .record effort), ("increase_stat", nature), ("speed", .int 156)])] }

/-- The opponent's attack on the player's creature with a move that is not physical. -/
def surf : Value := attack "you" "floatzel" "spinda" (Rules.moveEntry "surf" "Water" "Special" 90 0) 50 false

end Sample

open Tracker in
/-- Effort in the attack raises the ranges of a special attack, and a nature that favours the defence lowers those of
a special attack on the creature. -/
theorem special_ranges_follow_physical_stats :
    moveIsPhysical (Sample.mine false 24 false) = .ok false ∧
    ((Sample.invested [] .null).rangesAttacking Rules.standard (Sample.mine false 24 false)).toOption =
      some [(21, 25), (17, 21), (14, 17), (11, 15), (19, 23), (15, 19), (13, 16), (10, 13)] ∧
    ((Sample.invested [("atk", .int 252)] .null).rangesAttacking Rules.standard
        (Sample.mine false 24 false)).toOption =
      some [(29, 35), (24, 29), (20, 24), (16, 20), (26, 32), (22, 27), (18, 22), (15, 18)] ∧
    moveIsPhysical Sample.surf = .ok false ∧
    leastDamage ((Sample.invested [] .null).rangesDefending Rules.standard Sample.surf) = some 48 ∧
    leastDamage ((Sample.invested [] (.text "defense")).rangesDefending Rules.standard Sample.surf) = some 44 := by
  refine ⟨rfl, ?_, ?_, rfl, ?_, ?_⟩ <;> decide +kernel

end Battle

end Docsmith
