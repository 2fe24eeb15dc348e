import Docsmith.Battle.Rules
import Docsmith.Value.Access
import Docsmith.Value.Arithmetic

/-!
# Stats

A stat follows from the base stat of the species, the effort put into it and the level.
-/

namespace Docsmith.Battle

/-- Base stat and effort scaled by the level: `(2 * base + 31 + effort / 4) * level / 100`, both quotients rounded
down. -/
def scaledStat (base effort level : Value) : Outcome Int := do
  let sum ← (← Value.mul (.int 2) base).add (.int 31)
  let quarter ← (← effort.div (.int 4)).floor
  let product ← (← sum.add (.int quarter)).mul level
  (← product.div (.int 100)).floor

/-- The value of a stat other than the hit points. -/
def stat (base effort level : Value) : Outcome Value := do
  .ok (.int ((← scaledStat base effort level) + 5))

/-- The hit points. -/
def hitPoints (base effort level : Value) : Outcome Value := do
  let scaled ← scaledStat base effort level
  Value.add (.int scaled) (← level.add (.int 10))

/-- The base stat of a species. -/
def baseStat (rules : Rules) (species : Value) (code : String) : Outcome Value := do
  (← (← Value.lookup rules.species species).field "baseStats").field code

/-- The least and the greatest speed that a species can have at level 100. -/
def speedRange (rules : Rules) (species : Value) : Outcome (List Value) := do
  let base ← baseStat rules species "spe"
  let least ← (← stat base (.int 0) (.int 100)).mul (.decimal 9 1)
  let greatest ← (← stat base (.int 252) (.int 100)).mul (.decimal 11 1)
  .ok [least, greatest]

end Docsmith.Battle
