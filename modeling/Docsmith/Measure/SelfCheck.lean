import Docsmith.Change
import Docsmith.Measure.Coverage

/-!
# Verdicts on benches

Whether a bench checks itself: it returns something that is stable, is not just its input, depends on its parameters,
and takes enough time, most of it in the code of the repository.
-/

namespace Docsmith.Measure

/-- A verdict on a bench. -/
inductive Verdict where
  | repoModified
  | error
  | returnsNone
  | unstable
  | returnsInput
  | lowRepoTime
  | tooFast
  | paramInvariant
  | okUnparam
  | ok
  deriving DecidableEq, Repr

namespace Verdict

/-- The name of a verdict. -/
def name : Verdict → String
  | .repoModified => "repo-modified"
  | .error => "error"
  | .returnsNone => "returns-none"
  | .unstable => "unstable"
  | .returnsInput => "returns-input"
  | .lowRepoTime => "low-repo-time"
  | .tooFast => "too-fast"
  | .paramInvariant => "param-invariant"
  | .okUnparam => "ok-unparam"
  | .ok => "ok"

/-- Whether a bench with this verdict needs no change. -/
def isOk (v : Verdict) : Bool := v == .ok || v == .okUnparam

end Verdict

/-- What is read of every bench: the type of its result, its times, its shares of time in the repository, and the
fingerprints of its parameters. -/
structure Observation where
  returnType : String
  times : List Binary64
  shares : List Binary64
  parameters : List Value

/-- The verdict on a bench, the type of its result, its least share of time in the repository and its median time. -/
structure Judgement where
  verdict : Verdict
  returnType : String
  share : Binary64
  time : Binary64

/-- A bench with the judgement on it. -/
structure Checked extends Judgement where
  name : String

namespace Observation

/-- The numbers of a record. -/
def numbers (name : String) (v : Value) : Outcome (List Binary64) := do
  (← fieldsOf "values" (← part name v)).mapM fun f => f.2.toFloat

/-- Values that may stand in a set. -/
def hashable (vs : List Value) : Outcome (List Value) :=
  if vs.all Value.isKey then .ok vs else .error .wrongType

/-- The type of a result that is not known. -/
def unknownType : String := "?"

/-- What a record says was observed.  The shares outside the repository are read and not used. -/
def ofValue (v : Value) : Outcome Observation := do
  let returnType ← v.getOr (.text "ret_type") .null
  let times ← numbers "repo_tt_ms" v
  let shares ← numbers "repo_frac" v
  let _ ← numbers "ext_frac" v
  let parameters ← hashable (← (← part "param_fps" v).elements)
  .ok ⟨if returnType.truthy then String.ofList returnType.display else unknownType, times, shares, parameters⟩

/-- Whether all members are equal to the first. -/
def allSame : List Value → Bool
  | [] => true
  | v :: vs => vs.all v.same

/-- Numbers in increasing order. -/
def ordered (xs : List Binary64) : List Binary64 := xs.mergeSort fun a b => a.compare? b != some .gt

/-- The least number. -/
def least? (xs : List Binary64) : Option Binary64 := (ordered xs).head?

/-- The middle number, or halfway between the two in the middle. -/
def median? (xs : List Binary64) : Option Binary64 :=
  let sorted := ordered xs
  let half := sorted.length / 2
  if sorted.length % 2 = 1 then sorted[half]?
  else do
    let a ← sorted[half - 1]?
    let b ← sorted[half]?
    (a.add b).div? (.ofDecimal false 2 0)

/-- Whether there is a number and it is less than a bound. -/
def isBelow (bound : Binary64) (x : Option Binary64) : Bool :=
  match x with
  | some x => x.compare? bound == some .lt
  | none => false

/-- The verdict on the results of a bench for several parameters. -/
def parameterVerdict (v : Value) : Outcome Verdict := do
  let results := (← fieldsOf "values" (← part "fp_by_param" v)).map (·.2)
  if results.length < 2 then .ok .okUnparam
  else if allSame (← hashable results) then .ok .paramInvariant
  else .ok .ok

/-- The verdict on the results of a bench that has some, and on the time it takes. -/
def resultVerdict (o : Observation) (v : Value) : Outcome Verdict := do
  match ← hashable (← (← part "fp_stable" v).elements) with
  | [] => .ok .unstable
  | first :: more =>
    if !more.all first.same then .ok .unstable
    else if o.parameters.any first.same then .ok .returnsInput
    else if isBelow (.ofDecimal false 5 (-1)) (least? o.shares) then .ok .lowRepoTime
    else if isBelow (.ofDecimal false 1 0) (median? o.times) then .ok .tooFast
    else parameterVerdict v

/-- The verdict on a bench.  The fingerprints of its results are looked at only if nothing was found before. -/
def verdict (modified : Bool) (o : Observation) (v : Value) : Outcome Verdict :=
  if modified then .ok .repoModified
  else if ['<'].isPrefixOf o.returnType.toList || o.returnType == unknownType then .ok .error
  else if o.returnType == "NoneType" then .ok .returnsNone
  else o.resultVerdict v

/-- The judgement on the bench that a value describes. -/
def judge (modified : Bool) (v : Value) : Outcome Judgement := do
  let o ← ofValue v
  let verdict ← o.verdict modified v
  .ok ⟨verdict, o.returnType, ((least? o.shares).getD (.zero false)).roundPlaces 2,
    ((median? o.times).getD (.zero false)).roundPlaces 2⟩

end Observation

/-- Judges benches one after the other; a fault leaves those before it.  Only a record describes a bench. -/
def checkAll (judge : Value → Outcome Judgement) : Fields Value → Change (List Checked) Unit
  | [] => return ()
  | (name, v) :: rest => do
    match v with
    | .record _ =>
      let judgement ← judge v
      modify fun done => done ++ [⟨judgement, name⟩]
    | _ => pure ()
    checkAll judge rest

namespace Checked

/-- The line of a bench. -/
def line (c : Checked) : List Char :=
  let share := (c.share.mul (.ofDecimal false 100 0)).fixedText 0
  ' ' :: ' ' :: (if c.verdict.isOk then ' ' else '*') :: ' ' :: Text.padRight 32 ' ' c.name.toList ++
    ' ' :: Text.padRight 16 ' ' c.verdict.name.toList ++ " (".toList ++ c.returnType.toList ++
    ", repo ".toList ++ share ++ "%) ".toList ++ c.time.fixedText 1 ++ "ms".toList

/-- The benches that need a change first. -/
def ordered (cs : List Checked) : List Checked :=
  cs.filter (fun c => !c.verdict.isOk) ++ cs.filter fun c => c.verdict.isOk

/-- How many benches need a change. -/
def failing (cs : List Checked) : Nat := (cs.filter fun c => !c.verdict.isOk).length

end Checked

/-- What the verdicts mean and what to do about them. -/
def legend : List String :=
  ["self-check (* = fix needed):",
   "  returns-none: run() has no return — collect and return the call results",
   "  unstable: seed RNG in setup; avoid time/uuid/id in the return",
   "  returns-input: return repo output, not the parameter value",
   "  low-repo-time: <50% of run() time is in repo code — move glue to setup",
   "  param-invariant: return something derived from run()'s work, not setup",
   "  repo-modified: revert edits to repo files (git checkout -- <path>)"]

end Docsmith.Measure
