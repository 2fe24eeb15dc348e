import Docsmith.Value.Basic

/-!
# Investments

What an opponent may have put into a stat: full effort or not, and a favourable nature or not; into the hit points
only full effort or not.
-/

namespace Docsmith.Battle.Investment

/-- An investment in a stat, as a record. -/
def ofParts (fullEffort favourable : Value) : Value :=
  .record [("max_evs", fullEffort), ("positive_nature", favourable)]

/-- An investment in the hit points, as a record. -/
def ofEffort (fullEffort : Value) : Value := .record [("max_evs", fullEffort)]

/-- The ways to invest in a stat: effort, then nature. -/
def ways : List (Bool × Bool) := [(false, false), (true, false), (false, true), (true, true)]

/-- The ways to invest in a defence and in the hit points: effort, nature, and effort in the hit points. -/
def waysWithPoints : List (Bool × Bool × Bool) := ways.flatMap fun w => [(w.1, w.2, false), (w.1, w.2, true)]

/-- All investments in a stat. -/
def all : List Value := ways.map fun w => ofParts (.bool w.1) (.bool w.2)

/-- All investments in the hit points. -/
def allPoints : List Value := [ofEffort (.bool true), ofEffort (.bool false)]

/-- All investments, by stat. -/
def table : Fields (List Value) :=
  [("atk", all), ("spa", all), ("hp", allPoints), ("def", all), ("spd", all)]

end Docsmith.Battle.Investment
