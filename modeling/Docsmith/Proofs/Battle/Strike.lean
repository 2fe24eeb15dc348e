import Docsmith.Battle.Tracker
import Docsmith.Proofs.Change

/-!
# Runs and the strikes in them

A run is a list of calls to a tracker.  Its attacks are read off the calls alone, without anything that the tracker
concludes: a strike is an attack with its damage as the tracker sees it, together with the player who asks and the
position of that player at the time.  From a strike follow the investments whose range contains the damage.
-/

namespace Docsmith

/-- Whether an outcome is the truth value `true`. -/
def Outcome.holds : Outcome Bool → Bool
  | .ok b => b
  | .error _ => false

namespace Battle

/-! ### Calls and runs -/

/-- A call to a tracker. -/
inductive Call where
  | reset
  | update (mine theirs : Value)
  | initialise (team active : Value)
  | learn (me turn : Value)

namespace Call

/-- What a call does. -/
def perform {σ : Type} [Store σ] (rules : Rules) : Call → Change σ Unit
  | .reset => Tracker.reset
  | .update mine theirs => Tracker.update mine theirs
  | .initialise team active => Tracker.initialise rules team active
  | .learn me turn => .ofFun fun s => (Tracker.readTurn rules me turn s).2

/-- The position of the player after a call, if it was `mine` before. -/
def position (mine : Value) : Call → Value
  | .reset => Tracker.start.mine
  | .update mine _ => mine
  | .initialise _ _ => mine
  | .learn _ _ => mine

/-- Whether a call leaves what is known in place, but for what a turn teaches. -/
def isLearning : Call → Bool
  | .reset => false
  | .update _ _ => true
  | .initialise _ _ => false
  | .learn _ _ => true

end Call

/-- One call after the other, up to the first that fails. -/
def run (rules : Rules) : List Call → Change Tracker Unit
  | [] => pure ()
  | call :: calls => do
    call.perform rules
    run rules calls

/-! ### Strikes -/

/-- An attack, the player who asks about it, and that player's position. -/
structure Strike where
  mine : Value
  me : Value
  event : Value

/-- The ways whose range contains a damage. -/
def fitting {ω : Type} (ways : List ω) (ranges : Outcome (List (Int × Int))) (damage : Outcome Value) : List ω :=
  match ranges, damage with
  | .ok rs, .ok d =>
    ((ways.zip rs).filter fun wr => ((Value.int wr.2.1).le d).holds && (d.le (.int wr.2.2)).holds).map (·.1)
  | _, _ => []

/-- The defence that physical moves meet, or all others. -/
def defenceName (physical : Bool) : String := if physical then "def" else "spd"

namespace Strike

/-- Whether the attacker is the player who asks. -/
def isMine (s : Strike) : Bool := Outcome.holds do .ok ((← s.event.field "attacker").same s.me)

/-- Whether the attack hits; it does if nothing else is said. -/
def hits (s : Strike) : Bool := Outcome.holds do .ok (← s.event.getOr (.text "move_hits") (.bool true)).truthy

/-- Whether the move is physical. -/
def isPhysical (s : Strike) : Bool :=
  Outcome.holds do .ok ((← (← s.event.field "move").field "category").isText "Physical")

/-- The defence that a strike meets. -/
def defenceStat (s : Strike) : String := defenceName s.isPhysical

/-- The attack that a strike is made with. -/
def attackStat (s : Strike) : String := if s.isPhysical then "atk" else "spa"

/-- Whether the player who asks hits a creature. -/
def landsOn (p : String) (s : Strike) : Bool :=
  s.hits && s.isMine && Outcome.holds do .ok ((← s.event.field "def_poke").isText p)

/-- Whether a creature hits the player who asks. -/
def comesFrom (p : String) (s : Strike) : Bool :=
  s.hits && !s.isMine && Outcome.holds do .ok ((← s.event.field "atk_poke").isText p)

/-- The name of the creature on the other side. -/
def foe (s : Strike) : Outcome String := do
  (← s.event.field (if s.isMine then "def_poke" else "atk_poke")).keyName

/-- A tracker that knows nothing but the player's position. -/
def view (s : Strike) : Tracker := { Tracker.start with mine := s.mine }

/-- The damage done. -/
def damage (s : Strike) : Outcome Value := s.event.field "pct_damage"

/-- The investments in a defence and the hit points for which the range of the player's attack contains the damage. -/
def defences (rules : Rules) (s : Strike) : List (Bool × Bool × Bool) :=
  fitting Investment.waysWithPoints (s.view.rangesAttacking rules s.event) s.damage

/-- The investments in an attack for which the range of the opponent's attack contains the damage. -/
def attacks (rules : Rules) (s : Strike) : List (Bool × Bool) :=
  fitting Investment.ways (s.view.rangesDefending rules s.event) s.damage

theorem isMine_eq {mine me event attacker : Value} (h : event.field "attacker" = .ok attacker) :
    (⟨mine, me, event⟩ : Strike).isMine = attacker.same me := by
  simp [isMine, h, bind, Except.bind, Outcome.holds]

theorem defenceStat_mem (s : Strike) : s.defenceStat ∈ ["atk", "def", "spa", "spd"] := by
  unfold defenceStat defenceName
  split <;> decide

theorem attackStat_mem (s : Strike) : s.attackStat ∈ ["atk", "def", "spa", "spd"] := by
  unfold attackStat
  split <;> decide

theorem points_ne_attackStat (s : Strike) : "hp" ∉ [s.attackStat] := by
  unfold attackStat
  split <;> decide

theorem defenceName_ne_attackStat (s : Strike) (physical : Bool) : defenceName physical ∉ [s.attackStat] := by
  unfold attackStat
  cases physical <;> split <;> decide

end Strike

/-- The hit points and the speed are not among the stats in which effort and nature are told apart. -/
theorem ne_of_mem_stats {stat : String} (h : stat ∈ ["atk", "def", "spa", "spd"]) : stat ≠ "hp" ∧ stat ≠ "spe" := by
  constructor
  · rintro rfl
    simp at h
  · rintro rfl
    simp at h

/-- The attacks among the events of a turn. -/
def attacksIn (turn : Value) : List Value :=
  match turn.elements with
  | .ok events => events.filter fun e => (Tracker.isAttack e).holds
  | .error _ => []

/-- The attacks of a turn, with the damage of critical hits reduced. -/
def strikesIn (mine me turn : Value) : List Strike :=
  match turn.elements with
  | .ok events =>
    (events.filter fun e => (Tracker.isAttack e).holds).map fun e => ⟨mine, me, (Tracker.reduceCritical.apply e).2⟩
  | .error _ => []

/-- The attacks that a call reports. -/
def Call.strikes (mine : Value) : Call → List Strike
  | .reset => []
  | .update _ _ => []
  | .initialise _ _ => []
  | .learn me turn => strikesIn mine me turn

/-- The attacks that a run reports, from the player's position at its start on. -/
def strikes (mine : Value) : List Call → List Strike
  | [] => []
  | call :: calls => call.strikes mine ++ strikes (call.position mine) calls

/-! ### A sample battle -/

namespace Sample

/-- A player's position. -/
def position : Value :=
  .record
    [("active", .creature
      [("name", .text "spinda"), ("evs", .record [("atk", .int 252)]), ("increase_stat", .text "attack"),
       ("speed", .int 156)])]

/-- The opponent's creature. -/
def foe : Value := .record [("name", .text "floatzel")]

/-- The tracker that has taken note of the positions. -/
def faced : Tracker :=
  (((Call.update position (.record [("active", foe)])).perform Rules.standard).apply Tracker.start).2

/-- An attack with the damage that it does, in percent. -/
def attack (attacker striker target : String) (move : String × Value) (percent : Int) (critical : Bool) : Value :=
  .record
    [("type", .text "ATTACK"), ("attacker", .text attacker), ("move", move.2), ("atk_poke", .text striker),
     ("def_poke", .text target), ("damage", .int percent), ("pct_damage", .int percent),
     ("critical_hit", .bool critical)]

/-- The player's attack on the opponent's creature, physical or not. -/
def mine (physical : Bool) : Int → Bool → Value :=
  attack "me" "spinda" "floatzel"
    (if physical then Rules.moveEntry "return" "Normal" "Physical" 102 0
      else Rules.moveEntry "shadowball" "Ghost" "Special" 80 0)

/-- The opponent's attack on the player's creature. -/
def theirs : Int → Bool → Value :=
  attack "you" "floatzel" "spinda" (Rules.moveEntry "liquidation" "Water" "Physical" 85 0)

/-- Two turns: an attack from each side, and then two attacks of the player, one of them a critical hit. -/
def turns : List Call :=
  [.update position (.record [("active", foe)]),
   .learn (.text "me") (.list [mine true 48 false, theirs 60 false]),
   .learn (.text "me") (.list [mine false 24 false, mine true 66 true])]

end Sample

end Battle

end Docsmith
