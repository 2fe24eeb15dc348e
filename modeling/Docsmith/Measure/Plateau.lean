/-!
# Plateaus

When to stop improving: the best value of a sequence, and how many values came after it was first reached.
-/

namespace Docsmith.Measure

/-- The best value so far and the number of values since. -/
structure Plateau where
  best : Int
  since : Nat
  deriving DecidableEq, Repr

namespace Plateau

/-- The state after one more value. -/
def step (p : Plateau) (n : Int) : Plateau := if n < p.best then ⟨n, 0⟩ else ⟨p.best, p.since + 1⟩

/-- The state after a sequence that is not empty. -/
def ofList? : List Int → Option Plateau
  | [] => none
  | n :: ns => some (ns.foldl step ⟨n, 0⟩)

/-- The number of values without improvement after which one stops. -/
def patience : Nat := 3

/-- Whether nothing has improved for long enough. -/
def isLong (p : Plateau) : Bool := patience ≤ p.since

end Plateau

end Docsmith.Measure
