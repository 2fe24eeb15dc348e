import Docsmith.Fault

/-!
# Changes of a state

A change works on a state and may be stopped by a fault; what it did before the fault stays.
-/

namespace Docsmith

/-- A computation on a state that a fault may stop. -/
abbrev Change (σ : Type) := ExceptT Fault (StateM σ)

namespace Change

variable {σ τ α : Type}

/-- Runs a change: its outcome and the state that it leaves. -/
def apply (c : Change σ α) (s : σ) : Outcome α × σ := StateT.run (ExceptT.run c) s

/-- A change from what it makes of each state. -/
def ofFun (f : σ → Outcome α × σ) : Change σ α := ExceptT.mk (fun s => f s)

end Change

end Docsmith
