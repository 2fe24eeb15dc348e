import Docsmith.Json.Reader
import Docsmith.Json.Writer
import Docsmith.Measure.RepoTime
import Docsmith.Measure.SelfCheck
import Docsmith.Text.Lines

/-!
# Checkpoints

Every round of measuring leaves a line in a file of checkpoints.  The lines of earlier rounds tell the number of the
round, the time since the last one, and how many benches were below the limit in each.
-/

namespace Docsmith.Measure

/-- The coverage from which on one may stop. -/
def enoughCoverage : Int := 60

/-- What earlier rounds have left. -/
structure History where
  /-- The number of benches below the limit, in the rounds that measured it. -/
  below : List Int
  /-- When the last round was. -/
  lastTime : Value

namespace History

/-- The lines of a file of checkpoints that are not blank. -/
def lines (text : List Char) : List (List Char) :=
  (Text.splitOn ['\n'] (Text.unifyLines text)).filter fun l => !l.all Text.isBlank

/-- The number of the next round. -/
def nextRound (lines : List (List Char)) : Nat := lines.length + 1

/-- Nothing known. -/
def start : History := ⟨[], .null⟩

/-- Whether the record of a round tells of enough coverage. -/
def isCovered (row : Value) : Outcome Bool := do
  let percent ← row.getOr (.text "coverage_pct") .null
  Value.le (.int enoughCoverage) (if percent.truthy then percent else .int 0)

/-- Reads the line of one round.  Its coverage has to be a number, if it is given, though nothing more is made of it. -/
def readLine (line : List Char) : Change History Unit := do
  let row ← Json.read line
  let _ ← isCovered row
  let below ← row.getOr (.text "n_below_repo_time") .null
  match below.int? with
  | some n => modify fun h => { h with below := h.below ++ [n] }
  | none => pure ()

/-- Reads when the last round was, and then the lines of all rounds from the first on. -/
def read (lines : List (List Char)) : Change History Unit := do
  match lines.getLast? with
  | some last =>
    let time ← (← Json.read last).getOr (.text "ts") .null
    modify fun h => { h with lastTime := time }
    lines.forM readLine
  | none => pure ()

end History

/-- What a round has measured. -/
structure Round where
  number : Nat
  time : Value.Number
  coverage : Coverage
  benches : Nat
  duration : Value.Number
  repoTime : RepoTime
  checked : List Checked

namespace Round

/-- The time since the last round; zero if that is not known. -/
def sinceLast (time : Value.Number) (last : Value) : Outcome Value := do
  if last.truthy then .ok (.ofNumber ((← time.sub (← last.toNumber)).roundPlaces 2))
  else .ok (.float (.zero false))

/-- The record of a round. -/
def toValue (r : Round) (wall : Value) : Value :=
  .record
    [("round", .int r.number), ("ts", .ofNumber r.time), ("wall_since_prev_s", wall),
     ("coverage_pct", .float r.coverage.percent), ("covered_lines", .int r.coverage.covered),
     ("num_statements", .int r.coverage.statements), ("n_bench_fns", .int r.benches),
     ("n_bench_errors", .int r.coverage.errorCount), ("cov_measure_s", .ofNumber (r.duration.roundPlaces 3)),
     ("repo_time_pct", .record (r.repoTime.shares.map fun f => (f.1, .float f.2))),
     ("n_below_repo_time", match r.repoTime.belowCount? with
       | some n => .int n
       | none => .null),
     ("semcheck", .record (r.checked.map fun c => (c.name, .text c.verdict.name))),
     ("n_not_self_checking", .int (Checked.failing r.checked))]

/-- The line that a round leaves. -/
def line (r : Round) (last : Value) : Outcome (List Char) := do
  .ok (Json.write (r.toValue (← sinceLast r.time last)))

end Round

end Docsmith.Measure
