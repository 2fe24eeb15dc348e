import Docsmith.Battle.Creature

/-!
# Damage

The damage of an attack follows from the level of the attacker, the power of the move, a stat of each side, the types,
and two rolls: one for a critical hit and one for the spread.
-/

namespace Docsmith.Battle

/-- Rolls that are taken in turn and start again after the last. -/
structure Rolls where
  values : List Value
  used : Nat

namespace Rolls

/-- Takes the next roll. -/
def next : Change Rolls Value := do
  let rolls ← get
  match rolls.values[rolls.used % rolls.values.length]? with
  | some v =>
    set { rolls with used := rolls.used + 1 }
    return v
  | none => throw .badIndex

/-- Takes a roll and spreads it evenly from `low` to `high`. -/
def between (low high : Value) : Change Rolls Value := do
  let width ← high.sub low
  low.add (← width.mul (← next))

end Rolls

/-- The factor of a boost: `max 2 (2 + boost) / max 2 (2 - boost)`. -/
def boostFactor (creature code : Value) : Outcome Value := do
  let up ← Value.add (.int 2) (← (← creature.field "boosts").item code)
  let up ← Value.max (.int 2) up
  let down ← Value.sub (.int 2) (← (← creature.field "boosts").item code)
  let down ← Value.max (.int 2) down
  up.div down

/-- The part of its hit points that a creature loses to its state each turn. -/
def statusDamage (creature : Value) : Outcome Value := do
  let status ← creature.field "status"
  if status.isText burn then .ok (.decimal 625 4)
  else if status.isText poison then .ok (.decimal 125 3)
  else if status.isText toxic then
    let turns ← (← creature.field "status_turns").add (.int 1)
    (← turns.mul (.decimal 10 1)).div (.int 16)
  else .ok (.int 0)

/-- The factor after one type of the defender. -/
def typeFactor (rules : Rules) (move : Value) (factor : Value) (type : Value) : Outcome Value := do
  let attack ← move.field "type"
  let entry ← Value.lookup rules.chart type
  if ← entry.contains attack then factor.mul (← entry.item attack) else .ok factor

/-- The factor of the types of an attack: half as much again for a type of the attacker, and what the chart says for
each type of the defender. -/
def typesFactor (rules : Rules) (move attacker defender : Value) : Outcome Value := do
  let attack ← move.field "type"
  let own ← (← attacker.field "types").contains attack
  let start ← if own then Value.mul (.int 1) (.decimal 15 1) else .ok (.int 1)
  (← (← defender.field "types").elements).foldlM (typeFactor rules move) start

/-- The damage before types and rolls. -/
def baseDamage (move attacker defender : Value) : Outcome Int := do
  let level ← (← Value.mul (.int 2) (← attacker.field "level")).div (.int 5)
  let power ← Value.mul (.int (← (← level.add (.int 2)).floor)) (← move.field "basePower")
  let category ← move.field "category"
  let ratio (attack defence : String) : Outcome Value := do
    let strength ← (← power.mul (← Creature.effectiveStatOf attacker attack)).floor
    Value.div (.int strength) (← Creature.effectiveStatOf defender defence)
  let share ←
    if category.isText "Physical" then ratio "atk" "def"
    else if category.isText "Special" then ratio "spa" "spd"
    else .ok power
  .ok ((← (← share.div (.int 50)).floor) + 2)

/-- The chance of a critical hit. -/
def criticalChance : Value := .decimal 625 4

/-- The damage of an attack, and whether it is a critical hit.  A move of category `Status` does no damage and takes
no rolls. -/
def damage (rules : Rules) (move attacker defender : Value) : Change Rolls (Int × Bool) := do
  if (← move.field "category").isText "Status" then return (0, false)
  let base ← baseDamage move attacker defender
  let factor ← typesFactor rules move attacker defender
  let critical ← (← Rolls.next).lt criticalChance
  let factor ← if critical then factor.mul (.decimal 15 1) else pure factor
  let factor ← factor.mul (← Rolls.between (.decimal 85 2) (.decimal 100 2))
  return (← (← Value.mul (.int base) factor).floor, critical)

end Docsmith.Battle
