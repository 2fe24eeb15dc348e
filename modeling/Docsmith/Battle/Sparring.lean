import Docsmith.Battle.Damage
import Docsmith.Battle.Investment

/-!
# Sparring

Pairs of a fighter and an opponent take turns.  In each round the fighter of one pair strikes with some moves, then gets
a new state, and what that state costs is noted with the damage and with how the two sides compare.  A fighter keeps
its state until it is its turn again, so its next strikes still suffer from it: a new bout starts with the states that
the last one left.
-/

namespace Docsmith.Battle

/-- A fighter and its opponent. -/
structure Pair where
  fighter : Attributes
  opponent : Attributes

/-- The pairs that take turns, and the rolls. -/
structure Sparring where
  pairs : List Pair
  rolls : Rolls

/-- What a bout adds up to: the total of its figures, how many investments in a stat were counted, and how many rounds
it was to have. -/
structure Tally where
  total : Value
  investments : Nat
  rounds : Int

namespace Sparring

/-- What is added to the total at once: a figure of the round, by its place, or a sum of such. -/
inductive Summand where
  | figure (place : Nat)
  | plus (left right : Summand)

/-- What a summand is worth. -/
def Summand.value (figures : List Value) : Summand → Outcome Value
  | .figure place =>
    match figures[place]? with
    | some v => .ok v
    | none => .error .badIndex
  | .plus left right => do (← left.value figures).add (← right.value figures)

/-- A total that starts from zero. -/
def sum (summands : List Value) : Outcome Value := summands.foldlM Value.add (.decimal 0 1)

/-- What is settled before a bout: who fights, the moves that are struck, the move whose types are compared, and how
the figures of a round are added to the total. -/
structure Setting where
  fighter : Attributes
  opponent : Attributes
  strikes : List Value
  compared : Value
  summands : List Summand

/-- What the figures of a round add to the total. -/
def Setting.worth (setting : Setting) (figures : List Value) : Outcome (List Value) :=
  setting.summands.mapM (Summand.value figures)

/-- How many pairs take turns. -/
def pairCount : Nat := 5

/-- How many figures a round has. -/
def figureCount : Nat := 10

/-- The states that the fighters get, one each round. -/
def states : List Value := [.null, .text burn, .text poison, .text toxic]

/-- How many turns of a state are told apart. -/
def turnCount : Nat := 5

/-- Full effort in a stat. -/
def fullEffort (code : String) : Value := .record [(code, .int 252)]

/-- The species of the opponents. -/
def opponentSpecies : Value := .text "floatzel"

/-- A strong fighter. -/
def makeFighter (rules : Rules) : Outcome Attributes :=
  Creature.make rules
    [("name", .text "spinda"), ("moves", .list [.text "return"]), ("nature", .text "adamant"),
      ("evs", fullEffort "atk")]

/-- A sturdy opponent. -/
def makeOpponent (rules : Rules) : Outcome Attributes :=
  Creature.make rules
    [("name", opponentSpecies), ("moves", .list [.text "watergun"]), ("nature", .text "bold"),
      ("evs", fullEffort "def")]

/-- The usual setting: two moves that do damage and one that does none, and figures that are added one by one. -/
def Setting.usual (rules : Rules) : Outcome Setting := do
  let move (name : String) : Outcome Value := Value.lookup rules.moves (.text name)
  .ok ⟨← makeFighter rules, ← makeOpponent rules, ← ["return", "shadowball", "synthesis"].mapM move, ← move "icebeam",
    (List.range figureCount).map .figure⟩

/-- Rested pairs and the rolls that they will take. -/
def start (setting : Setting) (rolls : List Value) : Sparring :=
  ⟨List.replicate pairCount ⟨setting.fighter, setting.opponent⟩, ⟨rolls, 0⟩⟩

/-- The damage of one strike. -/
def strike (rules : Rules) (pair : Pair) (move : Value) : Change Sparring Value := do
  let ring ← get
  let (outcome, rolls) := (damage rules move (.creature pair.fighter) (.creature pair.opponent)).apply ring.rolls
  set { ring with rolls := rolls }
  let hit ← outcome
  return .int hit.1

/-- How the two sides compare: the factor of the types of a move, the boost of the fighter's attack, the speeds that
the opponent can have, and a common stat and common hit points at full effort. -/
def comparison (rules : Rules) (move : Value) (pair : Pair) : Outcome (List Value) := do
  let types ← typesFactor rules move (.creature pair.fighter) (.creature pair.opponent)
  let boost ← boostFactor (.creature pair.fighter) (.text "atk")
  let speeds ← speedRange rules opponentSpecies
  .ok ([types, boost] ++ speeds ++
    [← stat (.int 80) (.int 252) (.int 100), ← hitPoints (.int 80) (.int 252) (.int 100)])

/-- The state of a fighter after round `i`. -/
def tired (i : Nat) (fighter : Attributes) : Attributes :=
  (fighter.put "status" (states[i % states.length]?.getD .null)).put "status_turns" (.int (i % turnCount))

/-- What round `i` adds to the total.  Its figures are the damage of each strike, what the new state costs, and how the
sides compare. -/
def round (rules : Rules) (setting : Setting) (i : Nat) : Change Sparring (List Value) := do
  let ring ← get
  let turn := i % pairCount
  match ring.pairs[turn]? with
  | none => throw .badIndex
  | some pair =>
    let hits ← setting.strikes.mapM (strike rules pair)
    let after := { pair with fighter := tired i pair.fighter }
    modify fun ring => { ring with pairs := ring.pairs.set turn after }
    let toll ← statusDamage (.creature after.fighter)
    let figures := hits ++ toll :: (← comparison rules setting.compared after)
    setting.worth figures

/-- What the first `n` rounds add to the total. -/
def rounds (rules : Rules) (setting : Setting) : Nat → Change Sparring (List Value)
  | 0 => return []
  | n + 1 => do
    let before ← rounds rules setting n
    return before ++ (← round rules setting n)

/-- How many investments in the attack are counted in a round. -/
def investmentCount : Nat := (Investment.table.get? "atk").elim 0 List.length

/-- A bout of `n` rounds. -/
def bout (rules : Rules) (setting : Setting) (n : Int) : Change Sparring Tally := do
  let summands ← rounds rules setting n.toNat
  let total ← (← sum summands).toNumber
  return ⟨.ofNumber (total.roundPlaces 4), investmentCount * n.toNat, n⟩

/-- Bouts of `n` rounds, one after the other. -/
def bouts (rules : Rules) (setting : Setting) (n : Int) : Nat → Change Sparring (List Tally)
  | 0 => return []
  | k + 1 => do
    let first ← bout rules setting n
    return first :: (← bouts rules setting n k)

/-- Bouts of `n` rounds, from rested pairs on. -/
def run (rules : Rules) (setting : Setting) (n : Int) (runs : Nat) (rolls : List Value) : Outcome (List Tally) :=
  ((bouts rules setting n runs).apply (start setting rolls)).1

end Sparring

/-- A tally as it is reported. -/
def Tally.toValue (t : Tally) : Value := .list [t.total, .int t.investments, .int t.rounds]

end Docsmith.Battle
