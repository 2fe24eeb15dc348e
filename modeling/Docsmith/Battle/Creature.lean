import Docsmith.Battle.Stat
import Docsmith.Change

/-!
# Creatures

A creature has attributes under names.  It is made from options, which are checked in a fixed order; its stats follow
from its species, its level, its effort and its nature.
-/

namespace Docsmith.Battle

/-- The attributes of a creature. -/
abbrev Attributes := Fields Value

/-- No boosts. -/
def noBoosts : Value :=
  .record [("atk", .int 0), ("def", .int 0), ("spa", .int 0), ("spd", .int 0), ("spe", .int 0)]

/-- Whether a value is a level: a whole number from 1 to 100. -/
def isLevel (v : Value) : Bool :=
  match v.number? with
  | some n => (List.range 100).any fun i => n.same (.int (i + 1))
  | none => false

/-- Refuses effort that is negative, above the limit or not whole. -/
def checkEffort (v : Value) : Outcome Unit := do
  if ← v.lt (.int 0) then .error (.refused .effortBelowZero)
  else if ← Value.lt (.int 255) v then .error (.refused .effortAboveLimit)
  else match v.int? with
    | some _ => .ok ()
    | none => .error (.refused .effortNotInteger)

/-- Refuses a move that the rules do not have. -/
def checkMove (rules : Rules) (move : Value) : Outcome Unit := do
  if ← (Value.record rules.moves).contains move then .ok () else .error (.refused (.move move))

/-- Refuses a creature that the rules do not allow. -/
def checkOptions (rules : Rules) (name moves level nature effort : Value) : Outcome Unit := do
  if !(← (Value.record rules.species).contains name) then .error (.refused (.species name))
  if !moves.truthy then .error (.refused .noMoves)
  (← moves.elements).forM (checkMove rules)
  if !isLevel level then .error (.refused .level)
  if !(← (Value.record rules.natures).contains nature) then .error (.refused (.nature nature))
  (← effort.elements).forM fun code => do checkEffort (← effort.item code)

namespace Creature

/-- An attribute of the creature at work. -/
def own (name : String) : Change Attributes Value := do
  (Value.creature (← get)).attr name

/-- Assigns an attribute. -/
def assign (name : String) (v : Value) : Change Attributes Unit := modify (Fields.put name v)

/-- The attribute that a value names. -/
def attributeAt (name : Value) : Change Attributes (String × Value) := do
  match name with
  | .text name => return (name, ← own name)
  | _ => throw .wrongType

/-- Computes one stat and assigns it. -/
def assignStat (base effort : Value) (code name : String) : Change Attributes Unit := do
  let v ← stat (← base.field code) (← effort.getOr (.text code) (.int 0)) (← own "level")
  assign name v

/-- Computes the stats from the base stats, the level, the effort and a nature. -/
def setStats (rules : Rules) (nature effort : Value) : Change Attributes Unit := do
  let base ← own "base_stats"
  let points ← hitPoints (← base.field "hp") (← effort.getOr (.text "hp") (.int 0)) (← own "level")
  assign "max_hp" points
  assign "current_hp" points
  assignStat base effort "atk" "attack"
  assignStat base effort "def" "defense"
  assignStat base effort "spa" "sp_attack"
  assignStat base effort "spd" "sp_defense"
  assignStat base effort "spe" "speed"
  let nature ← Value.lookup rules.natures nature
  let increase ← nature.field "increase"
  match increase with
  | .null => return ()
  | _ =>
    let decrease ← nature.field "decrease"
    let (up, raised) ← attributeAt increase
    let raised ← (← raised.mul (.decimal 11 1)).floor
    let (down, lowered) ← attributeAt decrease
    let lowered ← (← lowered.mul (.decimal 9 1)).floor
    assign "increase_stat" increase
    assign up (.int raised)
    assign down (.int lowered)

/-- The creature that options describe. -/
def make (rules : Rules) (options : Fields Value) : Outcome Attributes := do
  let name ← Value.lookup options (.text "name")
  let moves ← Value.lookup options (.text "moves")
  let level := (options.get? "level").getD (.int 100)
  let nature := (options.get? "nature").getD (.text "quirky")
  let effort := (options.get? "evs").getD (.record [])
  checkOptions rules name moves level nature effort
  let moves ← (← moves.elements).mapM (Value.lookup rules.moves)
  let species ← Value.lookup rules.species name
  let start : Attributes :=
    [("name", name), ("level", level), ("moves", .list moves), ("types", ← species.field "types"),
     ("base_stats", ← species.field "baseStats"), ("dex_num", ← species.field "num"), ("status", .null),
     ("status_turns", .int 0), ("evs", effort), ("increase_stat", .null)]
  let (outcome, made) := (setStats rules nature effort).apply start
  outcome
  .ok ((made.put "boosts" noBoosts).put "volatile_status" (.record []))

/-- The attribute that holds a stat, and the state that halves it. -/
def statAttribute (code : Value) : Outcome (String × Option String) :=
  match code with
  | .text "atk" => .ok ("attack", some burn)
  | .text "def" => .ok ("defense", none)
  | .text "spa" => .ok ("sp_attack", none)
  | .text "spd" => .ok ("sp_defense", none)
  | .text "spe" => .ok ("speed", some paralysis)
  | _ => .error .unassigned

/-- A stat after a boost: `(2 + boost) / 2` times as much for a positive one, `2 / (2 - boost)` for a negative
one. -/
def boosted (v boost : Value) : Outcome Value := do
  if ← Value.lt (.int 0) boost then
    (← v.mul (← Value.add (.int 2) boost)).div (.int 2)
  else if ← boost.lt (.int 0) then
    v.mul (← Value.div (.int 2) (← Value.sub (.int 2) boost))
  else .ok v

/-- A stat after boosts and the creature's state, rounded down. -/
def effectiveStat (attributes : Attributes) (code : Value) : Outcome Int := do
  let self := Value.creature attributes
  let (name, halvedBy) ← statAttribute code
  let status ← self.attr "status"
  let factor := match halvedBy with
    | some state => if status.isText state then Value.decimal 5 1 else .int 1
    | none => .int 1
  let v ← boosted (← self.field name) (← (← self.attr "boosts").item code)
  (← v.mul factor).floor

/-- A stat of a value that should be a creature, after boosts and its state. -/
def effectiveStatOf (v : Value) (code : String) : Outcome Value := do
  .ok (.int (← effectiveStat (← v.receiver "effective_stat") (.text code)))

end Creature

/-- A team of one creature. -/
def teamOf (rules : Rules) (name : String) (moves : List String) : Outcome Value := do
  let made ← Creature.make rules [("name", .text name), ("moves", .list (moves.map .text))]
  .ok (.list [.creature made])

/-- A spinda that attacks with four types. -/
def spindaTeam (rules : Rules) : Outcome Value :=
  teamOf rules "spinda" ["return", "shadowball", "tackle", "icebeam"]

/-- A floatzel that attacks with water and more. -/
def floatzelTeam (rules : Rules) : Outcome Value :=
  teamOf rules "floatzel" ["watergun", "tackle", "liquidation", "icebeam"]

/-- An ivysaur that heals and prepares itself. -/
def ivysaurTeam (rules : Rules) : Outcome Value :=
  teamOf rules "ivysaur" ["seedbomb", "return", "synthesis", "swordsdance"]

end Docsmith.Battle
