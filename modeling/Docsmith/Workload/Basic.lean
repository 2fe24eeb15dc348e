import Docsmith.Battle.Sparring

/-!
# Workloads

Tasks that are run to see how long they take.  Each has one parameter, its size, and is listed with a small, a usual and
a large size.
-/

namespace Docsmith

/-- A task whose size is a parameter. -/
structure Workload where
  name : String
  parameter : String
  small : Nat
  usual : Nat
  large : Nat

namespace Workload

/-- The sizes at which a workload is run. -/
def sizes (w : Workload) : List Nat := [w.small, w.usual, w.large]

/-- Workloads with the parameters of their runs. -/
def listing (ws : List Workload) : Value :=
  .record (ws.map fun w => (w.name, .list (w.sizes.map fun (n : Nat) => .record [(w.parameter, .int n)])))

/-- The size that parameters give: the usual one if they do not say, and only a whole number will do.  A workload has
no other parameter. -/
def sizeOf (w : Workload) (params : Fields Value) : Outcome Int :=
  if params.names.any (· != w.parameter) then .error .wrongType
  else match params.get? w.parameter with
    | none => .ok w.usual
    | some v =>
      match v.int? with
      | some n => .ok n
      | none => .error .wrongType

/-- Lets fighters spar. -/
def sparring : Workload := ⟨"bench_calculate_battle", "n_rounds", 50, 200, 700⟩

/-- The workloads with the parameters of their runs. -/
def catalogue : Value := listing [sparring]

/-- Runs the workload of a name `runs` times. -/
def run (name : String) (params : Fields Value) (runs : Nat) (rolls : List Value) : Outcome (List Value) :=
  if name = sparring.name then do
    let size ← sparring.sizeOf params
    let setting ← Battle.Sparring.Setting.usual .standard
    .ok ((← Battle.Sparring.run .standard setting size runs rolls).map (·.toValue))
  else .error .badValue

end Workload

end Docsmith
