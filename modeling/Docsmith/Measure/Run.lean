import Docsmith.Measure.Checkpoint
import Docsmith.Measure.Plateau
import Docsmith.Text.Identifier

/-!
# A round of measuring

A round takes what processes and files say, appends a checkpoint, and prints a report.  Faults in reading the times
and the checks are noted and leave what was read before; a fault with the checkpoints leaves no checkpoint.
-/

namespace Docsmith.Measure

/-- What became of a process. -/
inductive Job where
  | finished (code : Int) (out err : List Char)
  | failed

/-- What a round of measuring works with. -/
structure Setup where
  started : Value.Number
  ended : Value.Number
  now : Value.Number
  coverageRun : Job
  repoTimeRun : Option Job
  statusRun : Job
  selfCheckRun : Option Job
  coverage : Option (List Char)
  benches : Option (List Char)
  checkpoints : Option (List Char)

/-- Something on the error channel. -/
inductive Notice where
  | output (text : List Char)
  | failed (runner : String) (fault : Fault)

/-- What a round leaves: the text it printed, its notices, and the lines it appended to the checkpoints. -/
structure Console where
  out : List Char
  notices : List Notice
  appended : List (List Char)

/-- How a round ends. -/
inductive Ending where
  | done
  | exit (code : Int)
  | fault (f : Fault)

namespace Console

/-- Nothing printed. -/
def empty : Console := ⟨[], [], []⟩

/-- Prints a line. -/
def print (line : List Char) : Change Console Unit :=
  modify fun c => { c with out := c.out ++ line ++ ['\n'] }

/-- Prints a line after an empty one. -/
def printApart (line : List Char) : Change Console Unit := print ('\n' :: line)

/-- Puts something on the error channel. -/
def notify (n : Notice) : Change Console Unit :=
  modify fun c => { c with notices := c.notices ++ [n] }

/-- Passes the error output of a process on. -/
def passErrors (err : List Char) : Change Console Unit :=
  if err.isEmpty then pure () else notify (.output err)

/-- Appends a line to the checkpoints. -/
def append (line : List Char) : Change Console Unit :=
  modify fun c => { c with appended := c.appended ++ [line] }

end Console

open Console

/-- Whether a character may stand in a name. -/
def isWordChar (c : Char) : Bool := c == '_' || Text.isIdentifierPart c

/-- Whether a text starts with the definition of a bench: its name has at least one more character, and a bracket
follows it, maybe after blanks. -/
def definesBench (text : List Char) : Bool :=
  let start := "def bench_".toList
  let name := (text.drop start.length).takeWhile isWordChar
  let rest := (text.drop (start.length + name.length)).dropWhile Text.isBlank
  start.isPrefixOf text && !name.isEmpty && rest.head? == some '('

/-- How many lines of a text start with the definition of a bench; `atStart` tells whether the text starts with a
line. -/
def countBenches : Bool → List Char → Nat
  | _, [] => 0
  | atStart, c :: text =>
    (if atStart && definesBench (c :: text) then 1 else 0) + countBenches (c == '\n') text

/-- How many benches a source defines. -/
def benchCount (source : Option (List Char)) : Nat :=
  match source with
  | some text => countBenches true (Text.unifyLines text)
  | none => 0

/-- The value on the last line of an output; an empty one stands for an empty record. -/
def lastValue (out : List Char) : Outcome Value :=
  match (Text.lines out).getLast? with
  | none => .ok (.record [])
  | some [] => .ok (.record [])
  | some line => Json.read line

/-- Reads what a runner has to say into a state, starting from `start`.  A fault is noted, and what was read before it
stays. -/
def readRunner {σ : Type} (runner : String) (process : Option Job) (start : σ)
    (read : Value → Change σ Unit) : Change Console σ :=
  match process with
  | none => return start
  | some .failed => do
    notify (.failed runner .process)
    return start
  | some (.finished _ out err) => do
    passErrors err
    match lastValue out with
    | .error fault =>
      notify (.failed runner fault)
      return start
    | .ok data =>
      let (outcome, state) := (read data).apply start
      match outcome with
      | .ok () => return state
      | .error fault =>
        notify (.failed runner fault)
        return state

/-- The files that are modified, from the status of a repository. -/
def modifiedFiles (process : Job) : List (List Char) :=
  match process with
  | .failed => []
  | .finished _ out _ => ((Text.lines out).filter fun l => !l.all Text.isBlank).map (·.drop 3)

/-- Judges the benches that a value describes. -/
def readChecks (judge : Value → Outcome Judgement) (data : Value) : Change (List Checked) Unit := do
  checkAll judge (← fieldsOf "items" (← part "semcheck" data))

/-- Appends the checkpoint of a round.  A fault with the earlier ones is passed over, and then nothing is appended;
what was learned of the earlier rounds is returned. -/
def keepCheckpoint (lines : List (List Char)) (round : Round) : Change Console History := do
  let (outcome, history) := (History.read lines).apply History.start
  match outcome.bind fun _ => round.line history.lastTime with
  | .ok line => append line
  | .error _ => pure ()
  return history

/-- The most errors of benches that are listed. -/
def errorLimit : Nat := 8

/-- Prints the errors of benches. -/
def printErrors (c : Coverage) : Change Console Unit := do
  if c.errorCount ≠ 0 then
    printApart (Nat.toDigits 10 c.errorCount ++ " bench error(s):".toList)
    for (name, error) in (← fieldsOf "items" c.errors).take errorLimit do
      print (' ' :: ' ' :: name.toList ++ ':' :: ' ' :: error.display)

/-- Prints the shares of time in the repository. -/
def printRepoTime (t : RepoTime) : Change Console Unit := do
  if !t.shares.isEmpty then
    printApart "repo_time (target 50%; * = below 45%):".toList
    for (name, share) in t.ordered do
      print (← t.line name share)

/-- The most modified files that are listed. -/
def fileLimit : Nat := 10

/-- Prints the verdicts on the benches. -/
def printChecks (modified : List (List Char)) (checked : List Checked) : Change Console Unit := do
  if !checked.isEmpty then
    if !modified.isEmpty then
      printApart ("** repo modified (".toList ++ Nat.toDigits 10 modified.length ++
        " file(s)) — revert these; only microbench.py is yours to edit:".toList)
      for file in modified.take fileLimit do
        print (' ' :: ' ' :: ' ' :: file)
    print []
    for line in legend do
      print line.toList
    for c in Checked.ordered checked do
      print c.line

/-- The line that sums a round up. -/
def summary (r : Round) (duration : Binary64) : List Char :=
  let count (n m : Nat) (text : String) : List Char :=
    ", ".toList ++ Nat.toDigits 10 n ++ '/' :: Nat.toDigits 10 m ++ text.toList
  "[round ".toList ++ Nat.toDigits 10 r.number ++ ": ".toList ++ Nat.toDigits 10 r.benches ++
    " benches, ".toList ++ r.coverage.percent.fixedText 1 ++ "% covered".toList ++
    (if r.repoTime.shares.isEmpty then []
      else count r.repoTime.belowCount r.repoTime.valid.length " below repo_time 45%") ++
    (if r.checked.isEmpty then []
      else count (Checked.failing r.checked) r.checked.length " not self-checking") ++
    ", measured in ".toList ++ duration.fixedText 1 ++ "s]".toList

/-- The reason to stop that nothing has improved on the best count for some rounds. -/
def noImprovement (rounds : Nat) (best : Int) : List Char :=
  "no improvement in ".toList ++ Nat.toDigits 10 rounds ++ " rounds; best ".toList ++ Value.intText best ++
    " below".toList

/-- Why one may stop, if one may: no bench is below the limit, or nothing has improved for long enough.  `past` has the
counts of the rounds before. -/
def stopReason? (r : Round) (past : List Int) : Option (List Char) :=
  match r.repoTime.belowCount? with
  | none => none
  | some n =>
    if !RepoTime.atLeast enoughCoverage r.coverage.percent then none
    else if n = 0 then some "0 below".toList
    else match Plateau.ofList? (past ++ [(n : Int)]) with
      | some p => if p.isLong then some (noImprovement p.since p.best) else none
      | none => none

/-- Prints the line that sums a round up and, if one may stop, the reason. -/
def conclude (r : Round) (past : List Int) (duration : Binary64) : Change Console Unit := do
  printApart (summary r duration)
  match stopReason? r past with
  | some reason =>
    printApart (">>> STOP: repo_time converged (".toList ++ reason ++
      "). Finalize microbench.py now. <<<".toList)
  | none => pure ()

/-- A round with a coverage report. -/
def report (s : Setup) (text : List Char) : Change Console Unit := do
  let coverage ← Coverage.ofValue (← Json.read text)
  let duration ← s.ended.sub s.started
  let repoTime ← readRunner "repotime" s.repoTimeRun RepoTime.empty RepoTime.read
  let modified := modifiedFiles s.statusRun
  let checked ← readRunner "semcheck" s.selfCheckRun [] (readChecks (Observation.judge !modified.isEmpty))
  let lines := History.lines (s.checkpoints.getD [])
  let round : Round :=
    ⟨History.nextRound lines, s.now, coverage, benchCount s.benches, duration, repoTime, checked⟩
  let history ← keepCheckpoint lines round
  for line in ← coverage.table do
    print line
  printErrors coverage
  printRepoTime repoTime
  printChecks modified checked
  conclude round history.below (← duration.toBinary64)

/-- A round of measuring.  Without a coverage report, or if the process that should make it has failed, the round ends
with a code other than zero. -/
def run (s : Setup) : Console × Ending :=
  match s.coverageRun with
  | .failed => (.empty, .fault .process)
  | .finished code out err =>
    let (_, console) := (passErrors err).apply .empty
    match s.coverage.filter fun _ => code == 0 with
    | none =>
      let message : Change Console Unit := do
        print ("coverage measurement failed (exit ".toList ++ Value.intText code ++ [')'])
        print out
      (((message.apply console).2), .exit (if code = 0 then 1 else code))
    | some text =>
      match (report s text).apply console with
      | (.ok (), console) => (console, .done)
      | (.error fault, console) => (console, .fault fault)

end Docsmith.Measure
