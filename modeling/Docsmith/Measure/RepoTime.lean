import Docsmith.Change
import Docsmith.Measure.Coverage

/-!
# Time spent in a repository

For each bench the share of its time that is spent in the code of the repository, and what else takes time in it.
A share below zero stands for a bench that could not be run.
-/

namespace Docsmith.Measure

/-- The shares of benches, in percent, and what else takes time in them. -/
structure RepoTime where
  shares : Fields Binary64
  others : Fields Value

namespace RepoTime

/-- Nothing measured. -/
def empty : RepoTime := ⟨[], []⟩

/-- The share below which a bench is marked. -/
def limit : Int := 45

/-- A pair of values. -/
def pairOf (v : Value) : Outcome (Value × Value) := do
  match ← v.elements with
  | [a, b] => .ok (a, b)
  | _ => .error .badValue

/-- A table given as a record or as pairs. -/
def tableOf (v : Value) : Outcome (Fields Value) :=
  match v with
  | .record fields => .ok fields
  | v => do
    let pairs ← (← v.elements).mapM fun p => do
      let (k, w) ← pairOf p
      .ok (← k.keyName, w)
    .ok (Fields.overlay pairs [])

/-- Reads the shares and then the rest; a fault in the rest leaves the shares. -/
def read (data : Value) : Change RepoTime Unit := do
  let shares ← (← fieldsOf "items" (← part "repo_time_pct" data)).mapM fun f => do
    return (f.1, ← f.2.toFloat)
  modify fun t => { t with shares := shares }
  let others ← tableOf (← part "hot_ext" data)
  modify fun t => { t with others := others }

/-- Whether a share is at least a bound. -/
def atLeast (bound : Int) (x : Binary64) : Bool :=
  match x.compareInt? bound with
  | some .gt => true
  | some .eq => true
  | _ => false

/-- Whether a share is below a bound. -/
def below (bound : Int) (x : Binary64) : Bool := x.compareInt? bound == some .lt

/-- The shares of the benches that could be run. -/
def valid (t : RepoTime) : List Binary64 := (t.shares.map (·.2)).filter (atLeast 0)

/-- How many benches are below the limit. -/
def belowCount (t : RepoTime) : Nat := (t.valid.filter (below limit)).length

/-- How many benches are below the limit, if any could be run. -/
def belowCount? (t : RepoTime) : Option Nat := if t.valid.isEmpty then none else some t.belowCount

/-- A number without places. -/
def wholeText (v : Value) : Outcome (List Char) :=
  match v with
  | .text _ => .error .badValue
  | v => do .ok ((← (← v.toNumber).toBinary64).fixedText 0)

/-- What else takes time in a bench: a name and its share. -/
def otherText (v : Value) : Outcome (List Char) := do
  let (share, name) ← pairOf v
  .ok (name.display ++ ' ' :: (← wholeText share) ++ ['%'])

/-- What else takes time in a bench, in brackets. -/
def othersText (t : RepoTime) (name : String) : Outcome (List Char) := do
  let others ← (← part name (.record t.others)).elements
  if others.isEmpty then .ok []
  else .ok (" (hot: ".toList ++ Text.join [' '] (← others.mapM otherText) ++ [')'])

/-- The line of a bench. -/
def line (t : RepoTime) (name : String) (share : Binary64) : Outcome (List Char) := do
  let failed := below 0 share
  let marked := atLeast 0 share && below limit share
  let shown := if failed then .zero false else share
  let note ←
    if marked then t.othersText name
    else if failed then .ok "  <error>".toList
    else .ok []
  .ok (' ' :: ' ' :: (if marked then '*' else ' ') :: ' ' :: Text.padRight 32 ' ' name.toList ++
    ' ' :: Text.padLeft 5 ' ' (shown.fixedText 1) ++ '%' :: note)

/-- The shares in increasing order. -/
def ordered (t : RepoTime) : Fields Binary64 :=
  t.shares.mergeSort fun a b => a.2.compare? b.2 != some .gt

end RepoTime

end Docsmith.Measure
