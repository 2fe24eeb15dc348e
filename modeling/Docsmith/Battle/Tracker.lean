import Docsmith.Battle.Estimate
import Docsmith.Battle.Investment

/-!
# What a player knows of an opponent

A tracker holds the positions of both sides, the moves the opponent has shown, and the investments that are still
possible for each creature of the opponent.  From the damage of an attack it keeps the investments that allow it;
when none is left, all are possible again.  From the order of two attacks it narrows the range of the speed.

The calls to a tracker are written over any `Store`, which says how lists are put in their places.  A tracker is one:
its lists are values.
-/

namespace Docsmith.Battle

/-- What is possible for one creature: investments by stat, and the range of the speed under `spe`. -/
abbrev Knowledge := Fields (List Value)

/-- What a player knows. -/
structure Tracker where
  /-- The player's own position. -/
  mine : Value
  /-- The opponent's position, as far as it can be seen. -/
  theirs : Value
  /-- The moves that each creature of the opponent has shown. -/
  moves : Fields (List Value)
  /-- What is possible for each creature of the opponent. -/
  investment : Fields Knowledge

namespace Tracker

/-- A tracker that knows nothing. -/
def start : Tracker := ⟨.record [], .record [], [], []⟩

/-- The names of the methods of a tracker. -/
def methods : List String :=
  ["reset_gamestates", "init_opp_gamestate", "update_gamestate", "new_info", "update_speed_inference",
   "results_attacking", "results_defending", "valid_results_atk", "valid_results_def", "update_atk_inference",
   "update_def_inference", "to_json"]

/-- The moves seen, as a record. -/
def movesValue (t : Tracker) : Value := .record (t.moves.map fun m => (m.1, .list m.2))

/-- The investments, as a record. -/
def investmentValue (t : Tracker) : Value :=
  .record (t.investment.map fun e => (e.1, .record (e.2.map fun s => (s.1, .list s.2))))

/-- All that is known of the opponent, as a record. -/
def theirsValue (t : Tracker) : Value :=
  .record [("data", t.theirs), ("moves", t.movesValue), ("investment", t.investmentValue)]

/-- The part of a tracker under a name. -/
def item (t : Tracker) (key : Value) : Outcome Value :=
  match key with
  | .text "test_attr" => .ok (.record [])
  | .text "gamestate" => .ok t.mine
  | .text "opp_gamestate" => .ok t.theirsValue
  | .text "dmg_stat_calc" => .ok .calculator
  | .text name =>
    if methods.contains name then .ok .method else .error (.noAttribute "PokemonPlayerGameState" name)
  | _ => .error .wrongType

/-- The attributes of a creature, as a record. -/
def creatureRecord (v : Value) : Outcome Value := do
  .ok (.record (← v.receiver "to_json"))

/-- Both sides, as a record. -/
def toRecord (t : Tracker) : Outcome Value := do
  let active ← creatureRecord (← t.mine.field "active")
  let team ← (← (← t.mine.field "team").elements).mapM creatureRecord
  .ok (.record [("player", .record [("active", active), ("team", .list team)]), ("opponent", t.theirsValue)])

/-- The knowledge of a creature. -/
def knowledge (t : Tracker) (name : String) : Knowledge := (t.investment.get? name).getD []

/-- The tracker with one stat of a creature replaced. -/
def withStat (name stat : String) (vs : List Value) (t : Tracker) : Tracker :=
  { t with investment := t.investment.put name ((t.knowledge name).put stat vs) }

/-- What is known of a creature when everything but the speed has been taken for possible. -/
def openKnowledge : Knowledge :=
  [("hp", Investment.allPoints), ("atk", Investment.all), ("def", Investment.all), ("spa", Investment.all),
   ("spd", Investment.all)]

/-- The player's active creature. -/
def active (t : Tracker) : Outcome Value := t.mine.field "active"

/-- Whether the active creature has much effort in a stat. -/
def hasEffort (t : Tracker) (code : String) : Outcome Bool := do
  let effort ← (← t.active).attr "evs"
  Value.lt (.int 124) (← effort.getOr (.text code) (.int 0))

/-- Whether the nature of the active creature favours a stat. -/
def isFavoured (t : Tracker) (name : String) : Outcome Bool := do
  .ok ((← (← t.active).attr "increase_stat").isText name)

/-- An option that is given only if it is on. -/
def optionIf (name : String) (on : Bool) : Fields Value := if on then [(name, .bool true)] else []

/-- The options of a damage range. -/
def params (attack defence points : Fields Value) : Value :=
  .record [("atk", .record attack), ("def", .record defence), ("hp", .record points)]

/-- The options of an investment. -/
def options (way : Bool × Bool) : Fields Value :=
  [("max_evs", .bool way.1), ("positive_nature", .bool way.2)]

/-- The range of an attack for each way in which the options can be filled. -/
def ranges {ω : Type} (rules : Rules) (event : Value) (fill : Outcome (ω → Value)) (ways : List ω) :
    Outcome (List (Int × Int)) := do
  let move ← event.field "move"
  let defender ← Value.lookup rules.species (← event.field "def_poke")
  let attacker ← Value.lookup rules.species (← event.field "atk_poke")
  let fill ← fill
  ways.mapM fun way => DamageTable.standard.range rules move attacker defender (fill way)

/-- The options of the player's attack against each investment in a defence and the hit points. -/
def attackingParams (t : Tracker) : Outcome (Bool × Bool × Bool → Value) := do
  let effort ← t.hasEffort "atk"
  let favoured ← t.isFavoured "attack"
  let attack := optionIf "max_evs" effort ++ optionIf "positive_nature" favoured
  .ok fun (full, favourable, points) =>
    params attack (options (full, favourable)) [("max_evs", .bool points)]

/-- The ranges of the player's attack, for each investment of the opponent in a defence and the hit points. -/
def rangesAttacking (rules : Rules) (event : Value) (t : Tracker) : Outcome (List (Int × Int)) :=
  ranges rules event t.attackingParams Investment.waysWithPoints

/-- The options of the opponent's attack with each investment. -/
def defendingParams (t : Tracker) : Outcome (Bool × Bool → Value) := do
  let effort ← t.hasEffort "def"
  let favoured ← t.isFavoured "defense"
  let points ← t.hasEffort "hp"
  let defence := optionIf "max_evs" effort ++ optionIf "positive_nature" favoured
  .ok fun way => params (options way) defence (optionIf "max_evs" points)

/-- The ranges of the opponent's attack, for each of its investments in an attack. -/
def rangesDefending (rules : Rules) (event : Value) (t : Tracker) : Outcome (List (Int × Int)) :=
  ranges rules event t.defendingParams Investment.ways

/-- Ranges as values. -/
def rangeValues (rs : List (Int × Int)) : Value := .list (rs.map fun r => .list [.int r.1, .int r.2])

/-- Ways to invest in an attack as values. -/
def wayValues : Value := .list (Investment.ways.map fun w => .list [.bool w.1, .bool w.2])

/-- Ways to invest in a defence and the hit points as values. -/
def wayValuesWithPoints : Value :=
  .list (Investment.waysWithPoints.map fun w => .list [.bool w.1, .bool w.2.1, .bool w.2.2])

/-- Whether a damage lies in a range. -/
def inRange (damage range : Value) : Outcome Bool := do
  if ← (← range.item (.int 0)).le damage then damage.le (← range.item (.int 1)) else .ok false

/-- What `part` makes of the combinations whose range allows a damage, for `count` of them from the `i`th on. -/
def allowed {α : Type} (part : Value → Outcome α) (damage results combinations : Value) :
    Nat → Nat → Outcome (List α)
  | 0, _ => .ok []
  | count + 1, i => do
    if ← inRange damage (← results.item (.int i)) then
      let first ← part (← combinations.item (.int i))
      .ok (first :: (← allowed part damage results combinations count (i + 1)))
    else allowed part damage results combinations count (i + 1)

/-- The investments in a defence and in the hit points of a combination. -/
def defencePart (combination : Value) : Outcome (Value × Value × Value) := do
  .ok (← combination.item (.int 0), ← combination.item (.int 1), ← combination.item (.int 2))

/-- The investment in an attack of a combination. -/
def attackPart (combination : Value) : Outcome Value := do
  .ok (Investment.ofParts (← combination.item (.int 0)) (← combination.item (.int 1)))

end Tracker

/-- The states in which the calls to a tracker take place.  A new list can be put in a place, or the list that stands
there can be changed; the two differ if one list may stand in several places. -/
class Store (σ : Type) where
  /-- What a state says. -/
  view : σ → Tracker
  /-- The state that knows nothing. -/
  start : σ
  /-- Takes note of both positions. -/
  place : Value → Value → σ → σ
  /-- Replaces the moves seen. -/
  setMoves : Fields (List Value) → σ → σ
  /-- Gives a creature an entry without any stat. -/
  room : String → σ → σ
  /-- Puts a new list under a stat of a creature. -/
  assign : String → String → List Value → σ → σ
  /-- Changes the list under a stat of a creature. -/
  overwrite : String → String → List Value → σ → σ
  /-- The lists of all investments. -/
  Lists : Type
  /-- Writes down the lists of all investments. -/
  prepare : σ → Lists × σ
  /-- Gives a creature an entry with the lists of all investments. -/
  openWith : Lists → String → σ → σ

namespace Tracker

/-- The lists of a tracker are values, and so it makes no difference how they come to their places. -/
instance store : Store Tracker where
  view t := t
  start := start
  place mine theirs t := { t with mine := mine, theirs := theirs }
  setMoves moves t := { t with moves := moves }
  room name t := { t with investment := t.investment.put name [] }
  assign := withStat
  overwrite := withStat
  Lists := Unit
  prepare t := ((), t)
  openWith _ name t := { t with investment := t.investment.put name openKnowledge }

variable {σ : Type} [Store σ]

/-- Puts a new list under a stat of a creature. -/
def setStat (name stat : String) (vs : List Value) : Change σ Unit := modify (Store.assign name stat vs)

/-- Changes the list under a stat of a creature. -/
def changeStat (name stat : String) (vs : List Value) : Change σ Unit := modify (Store.overwrite name stat vs)

/-- What is known of one stat of a creature. -/
def known (name stat : String) : Change σ (List Value) := do
  match ((Store.view (← get)).knowledge name).get? stat with
  | some vs => return vs
  | none => throw (.missingKey (.text stat))

/-- Forgets everything. -/
def reset : Change σ Unit := set (Store.start : σ)

/-- Takes note of both positions. -/
def update (mine theirs : Value) : Change σ Unit := modify (Store.place mine theirs)

/-- Takes everything for possible that the species of a creature allows. -/
def initialiseOne (rules : Rules) (lists : Store.Lists σ) (creature : Value) : Change σ Unit := do
  let name ← creature.field "name"
  let key ← name.keyName
  modify (Store.openWith lists key)
  setStat key "spe" (← speedRange rules name)

/-- Takes everything for possible that the species of the active creature and of the team allow.  All of them are given
the same lists. -/
def initialise (rules : Rules) (team active : Value) : Change σ Unit := do
  let lists : Store.Lists σ ← modifyGet Store.prepare
  initialiseOne rules lists active
  (← team.elements).forM (initialiseOne rules lists)

/-- Makes sure that there is knowledge of a creature. -/
def ensureKnowledge (name : Value) : Change σ String := do
  let key ← name.keyName
  if !((Store.view (← get)).investment.has key) then modify (Store.room key)
  return key

/-- The investments in a defence and the hit points that allow a damage.  A stat of which nothing was known is known
from now on, with nothing possible, and so are the hit points. -/
def allowedDefences (name stat damage results combinations : Value) :
    Change σ (List (Value × Value × Value)) := do
  let count ← results.size
  let key ← ensureKnowledge name
  let statKey ← stat.keyName
  if !(((Store.view (← get)).knowledge key).has statKey) then
    setStat key statKey []
    setStat key "hp" []
  allowed defencePart damage results combinations count 0

/-- The investments in an attack that allow a damage.  A stat of which nothing was known is known from now on, with
nothing possible. -/
def allowedAttacks (name stat damage results combinations : Value) : Change σ (List Value) := do
  let count ← results.size
  let key ← ensureKnowledge name
  let statKey ← stat.keyName
  if !(((Store.view (← get)).knowledge key).has statKey) then setStat key statKey []
  allowed attackPart damage results combinations count 0

/-- An allowed investment in a defence and the hit points, as a record by stat. -/
def defenceRecord (stat : String) (combination : Value × Value × Value) : Value :=
  let (full, favourable, points) := combination
  let defence : Fields Value := [("max_evs", full), ("positive_nature", favourable)]
  let hitPoints : Fields Value := if stat = "hp" then defence else []
  .record (Fields.put "hp" (.record (hitPoints.put "max_evs" points)) [(stat, .record defence)])

/-- Adds investments to those known, one by one.  The lists in place grow. -/
def addDefences (key stat : String) : List (Value × Value) → Change σ Unit
  | [] => return ()
  | (defence, points) :: rest => do
    changeStat key stat ((← known key stat) ++ [defence])
    changeStat key "hp" ((← known key "hp") ++ [points])
    addDefences key stat rest

/-- The members of a list that are among those known; a list without members needs no knowledge. -/
def keepKnown (key stat : String) (vs : List Value) : Change σ (List Value) := do
  match vs with
  | [] => return []
  | _ =>
    let before ← known key stat
    return vs.filter fun v => before.any fun w => w.same v

/-- Takes all for possible if nothing is. -/
def orAll (vs all : List Value) : List Value := if vs.isEmpty then all else vs

/-- Keeps the investments in a defence and the hit points that are allowed; if there are none, all are possible. -/
def narrowDefences (key stat : String) (allowed : List (Value × Value)) : Change σ Unit := do
  setStat key stat (← keepKnown key stat (allowed.map (·.1)))
  setStat key "hp" (← keepKnown key "hp" (allowed.map (·.2)))
  setStat key stat (orAll (← known key stat) Investment.all)
  setStat key "hp" (orAll (← known key "hp") Investment.allPoints)

/-- Learns from the damage of the player's attack. -/
def learnAttacking (event results combinations : Value) : Change σ Unit := do
  let move ← event.field "move"
  let damage ← event.field "pct_damage"
  let stat := if (← move.field "category").isText "Physical" then "def" else "spd"
  let name ← event.field "def_poke"
  let ways ← allowedDefences name (.text stat) damage results combinations
  let key ← name.keyName
  let investments := ways.map fun w => (Investment.ofParts w.1 w.2.1, Investment.ofEffort w.2.2)
  if (← known key stat).isEmpty then addDefences key stat investments
  else narrowDefences key stat investments

/-- Learns from the damage of the opponent's attack. -/
def learnDefending (event results combinations : Value) : Change σ Unit := do
  let move ← event.field "move"
  let damage ← event.field "pct_damage"
  let stat := if (← move.field "category").isText "Physical" then "atk" else "spa"
  let name ← event.field "atk_poke"
  let ways ← allowedAttacks name (.text stat) damage results combinations
  let key ← name.keyName
  let left ← if (← known key stat).isEmpty then pure ways else keepKnown key stat ways
  setStat key stat (orAll left Investment.all)

/-- The player's speed. -/
def speed (t : Tracker) : Outcome Value := do (← t.active).attr "speed"

/-- The speed of a species with full effort or none, and a nature. -/
def speedOf (rules : Rules) (species : Value) (effort : Fields Value) (nature : String) : Outcome Value := do
  let made ← Creature.make rules
    ([("name", species), ("moves", .list [.text "tackle"]), ("nature", .text nature)] ++ effort)
  (Value.creature made).attr "speed"

/-- Makes sure that there is a range of the speed of a creature. -/
def ensureSpeed (rules : Rules) (name : Value) : Change σ String := do
  let key ← ensureKnowledge name
  if !(((Store.view (← get)).knowledge key).has "spe") then
    let least ← speedOf rules name [] "brave"
    let greatest ← speedOf rules name [("evs", .record [("spe", .int 252)])] "jolly"
    setStat key "spe" [least, greatest]
  return key

/-- One end of the range of the speed. -/
def speedEnd (key : String) (i : Nat) : Change σ Value := do
  match (← known key "spe")[i]? with
  | some v => return v
  | none => throw .badIndex

/-- Replaces one end of the range of the speed. -/
def setSpeedEnd (key : String) (i : Nat) (v : Value) : Change σ Unit := do
  changeStat key "spe" ((← known key "spe").set i v)

/-- Learns from the order of two attacks of equal priority: if the player came first, the opponent is at most as fast,
else at least. -/
def learnSpeed (rules : Rules) (turn me : Value) : Change σ Unit := do
  let priority (i : Int) : Outcome Value := do (← (← turn.item (.int i)).field "move").field "priority"
  if !((← priority 0).same (← priority 1)) then return ()
  let first ← turn.item (.int 0)
  let attacker ← first.field "atk_poke"
  let mineFirst := (← first.field "attacker").same me
  let name ← if mineFirst then first.field "def_poke" else pure attacker
  let key ← ensureSpeed rules name
  if mineFirst then
    let most ← speedEnd key 1
    let speed ← (Store.view (← get)).speed
    if ← speed.lt most then setSpeedEnd key 1 speed
  else
    let least ← speedEnd key 0
    let speed ← (Store.view (← get)).speed
    if ← least.lt speed then setSpeedEnd key 0 speed

/-- Takes note of a move of the opponent's active creature. -/
def learnMove (event : Value) : Change σ Unit := do
  let name ← (← (Store.view (← get)).theirs.field "active").field "name"
  let key ← name.keyName
  if !((Store.view (← get)).moves.has key) then modify fun s => Store.setMoves ((Store.view s).moves.put key []) s
  let move ← event.field "move"
  let shown := ((Store.view (← get)).moves.get? key).getD []
  if !(shown.any fun m => m.same move) then
    modify fun s => Store.setMoves ((Store.view s).moves.put key (shown ++ [move])) s

/-- Learns from one attack. -/
def learnEvent (rules : Rules) (me event : Value) : Change σ Unit := do
  let mine := (← event.field "attacker").same me
  let hits := (← event.getOr (.text "move_hits") (.bool true)).truthy
  if mine then
    if hits then
      let results ← (Store.view (← get)).rangesAttacking rules event
      learnAttacking event (rangeValues results) wayValuesWithPoints
  else
    if hits then
      let results ← (Store.view (← get)).rangesDefending rules event
      learnDefending event (rangeValues results) wayValues
    learnMove event

/-- Two thirds of a value. -/
def twoThirds (v : Value) : Outcome Value := do (← v.mul (.int 2)).div (.int 3)

/-- Replaces a part of an event by two thirds of it. -/
def reducePart (name : String) : Change Value Unit := do
  let event ← get
  let part ← twoThirds (← event.field name)
  match event with
  | .record fields => set (Value.record (Fields.put name part fields))
  | _ => throw .wrongType

/-- Takes the surplus of a critical hit away from the damage of an event. -/
def reduceCritical : Change Value Unit := do
  let event ← get
  if ← event.contains (.text "critical_hit") then
    if (← event.field "critical_hit").truthy then
      reducePart "damage"
      reducePart "pct_damage"

/-- Whether an event is an attack. -/
def isAttack (event : Value) : Outcome Bool := do .ok ((← event.field "type").isText "ATTACK")

/-- Whether an event is a switch. -/
def isSwitch (event : Value) : Outcome Bool := do .ok ((← event.field "type").isText "SWITCH")

/-- Whether there is a switch among events; the first one ends the search. -/
def hasSwitch : List Value → Outcome Bool
  | [] => .ok false
  | event :: events => do if ← isSwitch event then .ok true else hasSwitch events

/-- Learns from the attacks among events, one after the other.  The events are returned with their damage reduced, as
far as they were reached. -/
def learnEvents (rules : Rules) (me : Value) : List (Bool × Value) → σ → List Value × Outcome Unit × σ
  | [], s => ([], .ok (), s)
  | (false, event) :: events, s =>
    let (rest, outcome, s) := learnEvents rules me events s
    (event :: rest, outcome, s)
  | (true, event) :: events, s =>
    match reduceCritical.apply event with
    | (.error fault, event) => (event :: events.map (·.2), .error fault, s)
    | (.ok (), event) =>
      match (learnEvent rules me event).apply s with
      | (.error fault, s) => (event :: events.map (·.2), .error fault, s)
      | (.ok (), s) =>
        let (rest, outcome, s) := learnEvents rules me events s
        (event :: rest, outcome, s)

/-- The attacks among events that are marked as such. -/
def attacksOf (marks : List Bool) (events : List Value) : List Value :=
  ((marks.zip events).filter (·.1)).map (·.2)

/-- Learns from the order of attacks, if there are two of them and no switch. -/
def learnOrder (rules : Rules) (me : Value) (attacks : List Value) : Change σ Unit := do
  if attacks.length == 2 && !(← hasSwitch attacks) then learnSpeed rules (.list attacks) me

/-- A turn with its events replaced; only a list has events. -/
def withEvents (turn : Value) (events : List Value) : Value :=
  match turn with
  | .list _ => .list events
  | v => v

/-- Learns from the events of a turn.  The turn is returned with the damage of critical hits reduced. -/
def readTurn (rules : Rules) (me turn : Value) (s : σ) : Value × Outcome Unit × σ :=
  match turn.elements.bind fun events => (events.mapM isAttack).map fun marks => (events, marks) with
  | .error fault => (turn, .error fault, s)
  | .ok (events, marks) =>
    match learnEvents rules me (marks.zip events) s with
    | (events, .error fault, s) => (withEvents turn events, .error fault, s)
    | (events, .ok (), s) =>
      let (outcome, s) := (learnOrder rules me (attacksOf marks events)).apply s
      (withEvents turn events, outcome, s)

/-- What a turn teaches a tracker. -/
abbrev learnTurn (rules : Rules) (me turn : Value) (t : Tracker) : Value × Outcome Unit × Tracker :=
  readTurn rules me turn t

end Tracker

end Docsmith.Battle
