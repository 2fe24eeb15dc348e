import Docsmith.Measure.Run
import Docsmith.Proofs.Change
import Docsmith.Proofs.Json.Numeral

/-!
# What a completed round has done

A round that completes has measured what `IsRoundOf` says, has appended its line to the checkpoints unless the earlier
lines stopped it, and its text ends with the summary and, if one may stop, the reason (`run_done`).  The number of the
round follows the last opening bracket of that text (`closing_eq_round`).
-/

namespace Docsmith.Measure

open Change

/-! ### Runners -/

/-- What a runner's report comes to; what was read before a fault counts. -/
def runnerState {σ : Type} (process : Option Job) (start : σ) (read : Value → Change σ Unit) : σ :=
  match process with
  | some (.finished _ out _) =>
    match lastValue out with
    | .ok data => ((read data).apply start).2
    | .error _ => start
  | _ => start

/-- Reading a runner never fails, and besides its result it leaves notices only. -/
theorem readRunner_apply {σ : Type} (runner : String) (process : Option Job) (start : σ)
    (read : Value → Change σ Unit) (c : Console) :
    ∃ notices, (readRunner runner process start read).apply c =
      (.ok (runnerState process start read), { c with notices := notices }) := by
  have hpass : ∀ err, ∃ notices, (Console.passErrors err).apply c = (.ok (), { c with notices := notices }) := by
    intro err
    unfold Console.passErrors
    split
    next => exact ⟨c.notices, rfl⟩
    next => exact ⟨_, rfl⟩
  unfold readRunner runnerState
  split
  next => exact ⟨c.notices, rfl⟩
  next => exact ⟨_, rfl⟩
  next code out err =>
    obtain ⟨notices, hpass⟩ := hpass err
    rw [apply_bind_of_ok hpass]
    dsimp only
    cases hvalue : lastValue out with
    | error fault => exact ⟨_, rfl⟩
    | ok data =>
      dsimp only
      rcases (read data).apply start with ⟨fault | u, state⟩
      · exact ⟨_, rfl⟩
      · exact ⟨_, rfl⟩

namespace Setup

/-- The shares of time that a round measures. -/
def repoTime (s : Setup) : RepoTime := runnerState s.repoTimeRun RepoTime.empty RepoTime.read

/-- The verdicts of a round. -/
def checked (s : Setup) : List Checked :=
  runnerState s.selfCheckRun [] (readChecks (Observation.judge !(modifiedFiles s.statusRun).isEmpty))

/-- The lines of the rounds before. -/
def earlier (s : Setup) : List (List Char) := History.lines (s.checkpoints.getD [])

/-- What a round learns of the rounds before. -/
def history (s : Setup) : History := ((History.read s.earlier).apply History.start).2

/-- Whether a round is what is measured. -/
structure IsRoundOf (s : Setup) (r : Round) : Prop where
  number : r.number = History.nextRound s.earlier
  time : r.time = s.now
  coverage : ∃ text data, s.coverage = some text ∧ Json.read text = .ok data ∧ Coverage.ofValue data = .ok r.coverage
  benches : r.benches = benchCount s.benches
  duration : s.ended.sub s.started = .ok r.duration
  repoTime : r.repoTime = s.repoTime
  checked : r.checked = s.checked

end Setup

/-! ### The report -/

/-- The line that a round leaves, if it leaves one. -/
def lineOf (lines : List (List Char)) (r : Round) : Outcome (List Char) :=
  let (outcome, history) := (History.read lines).apply History.start
  outcome.bind fun _ => r.line history.lastTime

private theorem keepCheckpoint_apply (lines : List (List Char)) (r : Round) (c : Console) :
    (keepCheckpoint lines r).apply c =
      (.ok ((History.read lines).apply History.start).2,
        { c with appended := c.appended ++ (lineOf lines r).toOption.toList }) := by
  unfold keepCheckpoint lineOf
  dsimp only
  cases (Except.bind ((History.read lines).apply History.start).1
      fun _ => r.line ((History.read lines).apply History.start).2.lastTime) with
  | error fault =>
    dsimp only
    rw [Except.toOption, Option.toList, List.append_nil]
    rfl
  | ok line => rfl

/-- The advice to stop for a reason, after an empty line. -/
def advice (reason : List Char) : List Char :=
  '\n' :: (">>> STOP: repo_time converged (".toList ++ reason ++ "). Finalize microbench.py now. <<<".toList) ++ ['\n']

/-- The last lines of the text of a round. -/
def closing (r : Round) (past : List Int) (duration : Binary64) : List Char :=
  '\n' :: summary r duration ++ ['\n'] ++ ((stopReason? r past).map advice).getD []

theorem conclude_apply (r : Round) (past : List Int) (duration : Binary64) (c : Console) :
    (conclude r past duration).apply c = (.ok (), { c with out := c.out ++ closing r past duration }) := by
  unfold conclude closing
  cases stopReason? r past with
  | none =>
    rw [Option.map_none, Option.getD_none, List.append_nil, ← List.append_assoc]
    rfl
  | some reason =>
    rw [Option.map_some, Option.getD_some, ← List.append_assoc, ← List.append_assoc, advice, ← List.append_assoc]
    rfl

private theorem keeps_appended_print (line : List Char) : Keeps Console.appended (Console.print line) :=
  keeps_modify fun _ => rfl

private theorem keeps_appended_printApart (line : List Char) : Keeps Console.appended (Console.printApart line) :=
  keeps_appended_print _

private theorem keeps_appended_printAll {α : Type} (as : List α) (line : α → List Char) : Keeps Console.appended
    (forIn as PUnit.unit fun a _ => do Console.print (line a); pure (ForInStep.yield PUnit.unit)) :=
  keeps_forIn (fun a _ => (keeps_appended_print (line a)).bind fun _ => keeps_pure _) _

private theorem keeps_appended_printErrors (c : Coverage) : Keeps Console.appended (printErrors c) := by
  unfold printErrors
  refine .ite ((keeps_appended_printApart _).bind fun _ => keeps_liftM_bind fun fields _ => ?_) (keeps_pure ())
  exact (keeps_appended_printAll _ _).bind fun _ => keeps_pure ()

private theorem keeps_appended_printRepoTime (t : RepoTime) : Keeps Console.appended (printRepoTime t) := by
  unfold printRepoTime
  refine .ite ((keeps_appended_printApart _).bind fun _ => ?_) (keeps_pure ())
  refine (keeps_forIn (fun f _ => ?_) _).bind fun _ => keeps_pure ()
  exact keeps_liftM_bind fun line _ => (keeps_appended_print line).bind fun _ => keeps_pure _

private theorem keeps_appended_printChecks (modified : List (List Char)) (checked : List Checked) :
    Keeps Console.appended (printChecks modified checked) := by
  unfold printChecks
  dsimp only
  refine .ite ?_ (keeps_pure ())
  -- the verdicts, which follow the files that are modified, if any are
  have hverdicts : Keeps Console.appended (do
      Console.print []
      forIn legend PUnit.unit fun line _ => do Console.print line.toList; pure (ForInStep.yield PUnit.unit)
      forIn (Checked.ordered checked) PUnit.unit fun c _ => do Console.print c.line; pure (ForInStep.yield PUnit.unit)
      pure () : Change Console Unit) :=
    (keeps_appended_print []).bind fun _ => (keeps_appended_printAll legend _).bind fun _ =>
      (keeps_appended_printAll _ Checked.line).bind fun _ => keeps_pure ()
  exact .ite
    ((keeps_appended_printApart _).bind fun _ => (keeps_appended_printAll _ _).bind fun _ => hverdicts) hverdicts

/-- A report that completes, taken apart. -/
private theorem report_eq_ok {s : Setup} {text : List Char} {c c' : Console} (hs : s.coverage = some text)
    (h : (report s text).apply c = (.ok (), c')) :
    ∃ r seconds before, s.IsRoundOf r ∧ c'.appended = c.appended ++ (lineOf s.earlier r).toOption.toList ∧
      c'.out = before ++ closing r s.history.below seconds := by
  unfold report at h
  obtain ⟨data, hdata, h⟩ := liftM_bind_eq_ok.1 h
  obtain ⟨coverage, hcoverage, h⟩ := liftM_bind_eq_ok.1 h
  obtain ⟨duration, hduration, h⟩ := liftM_bind_eq_ok.1 h
  obtain ⟨notices, hrepoTime⟩ := readRunner_apply "repotime" s.repoTimeRun RepoTime.empty RepoTime.read c
  rw [apply_bind_of_ok hrepoTime] at h
  dsimp only at h
  obtain ⟨notices', hchecked⟩ := readRunner_apply "semcheck" s.selfCheckRun []
    (readChecks (Observation.judge !(modifiedFiles s.statusRun).isEmpty)) { c with notices := notices }
  rw [apply_bind_of_ok hchecked] at h
  generalize hr : Round.mk (History.nextRound (History.lines (s.checkpoints.getD []))) s.now coverage
    (benchCount s.benches) duration (runnerState s.repoTimeRun RepoTime.empty RepoTime.read)
    (runnerState s.selfCheckRun [] (readChecks (Observation.judge !(modifiedFiles s.statusRun).isEmpty))) = r at h
  have hround : s.IsRoundOf r := by
    subst hr
    exact ⟨rfl, rfl, ⟨text, data, hs, hdata, hcoverage⟩, rfl, hduration, rfl, rfl⟩
  rw [apply_bind_of_ok (keepCheckpoint_apply _ r _)] at h
  obtain ⟨table, -, h⟩ := liftM_bind_eq_ok.1 h
  obtain ⟨_, c₁, htable, h⟩ := bind_eq_ok.1 h
  obtain ⟨_, c₂, herrors, h⟩ := bind_eq_ok.1 h
  obtain ⟨_, c₃, htimes, h⟩ := bind_eq_ok.1 h
  obtain ⟨_, c₄, hchecks, h⟩ := bind_eq_ok.1 h
  obtain ⟨seconds, -, h⟩ := liftM_bind_eq_ok.1 h
  rw [conclude_apply] at h
  cases h
  have happended := (keeps_appended_printChecks _ _).of_apply hchecks
  rw [(keeps_appended_printRepoTime _).of_apply htimes, (keeps_appended_printErrors _).of_apply herrors,
    (keeps_appended_printAll table id).of_apply htable] at happended
  exact ⟨r, seconds, c₄.out, hround, happended, rfl⟩

/-- A round that completes has measured something, and this is what it keeps and reports. -/
theorem run_done {s : Setup} (h : (run s).2 = .done) :
    ∃ r seconds before, s.IsRoundOf r ∧ (run s).1.appended = (lineOf s.earlier r).toOption.toList ∧
      (run s).1.out = before ++ closing r s.history.below seconds := by
  unfold run at h ⊢
  cases hrun : s.coverageRun with
  | failed =>
    rw [hrun] at h
    cases h
  | finished code out err =>
    rw [hrun] at h
    dsimp only at h ⊢
    cases htext : s.coverage.filter fun _ => code == 0 with
    | none =>
      rw [htext] at h
      cases h
    | some text =>
      rw [htext] at h
      dsimp only at h ⊢
      rcases hreport : (report s text).apply ((Console.passErrors err).apply .empty).2 with ⟨fault | u, c⟩
      · rw [hreport] at h
        cases h
      · obtain ⟨r, seconds, before, hround, happended, hout⟩ :=
          report_eq_ok (Option.filter_eq_some_iff.1 htext).1 hreport
        have hpass : ((Console.passErrors err).apply .empty).2.appended = [] := by
          unfold Console.passErrors
          split <;> rfl
        rw [hpass, List.nil_append] at happended
        exact ⟨r, seconds, before, hround, happended, hout⟩

/-! ### The number of a round -/

theorem not_mem_toDigits {c : Char} (hdigit : c.isDigit = false) (n : Nat) : c ∉ Nat.toDigits 10 n := by
  intro hmem
  rw [Json.isDigit_of_mem_toDigits c hmem] at hdigit
  cases hdigit

private theorem not_mem_intText {c : Char} (hdigit : c.isDigit = false) (hsign : c ≠ '-') (n : Int) :
    c ∉ Value.intText n := by
  unfold Value.intText
  split
  · exact fun hmem => (List.mem_cons.1 hmem).elim hsign (not_mem_toDigits hdigit _)
  · exact not_mem_toDigits hdigit _

/-- The text of a number has no other characters than digits, a sign, a point and letters. -/
private theorem not_mem_fixedText {c : Char} (hdigit : c.isDigit = false) (hother : c ∉ ['-', '.', 'n', 'a', 'i', 'f'])
    (places : Nat) (x : Binary64) : c ∉ x.fixedText places := by
  simp only [List.mem_cons, List.not_mem_nil, not_or, or_false] at hother
  obtain ⟨hminus, hpoint, hn, ha, hi, hf⟩ := hother
  have hsign : ∀ negative : Bool, c ∉ if negative then ['-'] else [] := by
    intro negative
    cases negative with
    | false => exact List.not_mem_nil
    | true => exact fun h => hminus (List.mem_singleton.1 h)
  have hdigits : ∀ k n : Nat, c ∉ List.replicate k '0' ++ Binary64.digitChars n := by
    intro k n h
    rcases List.mem_append.1 h with h | h
    · rw [(List.mem_replicate.1 h).2] at hdigit
      cases hdigit
    · exact not_mem_toDigits hdigit n h
  unfold Binary64.fixedText
  split
  next => simp [hn, ha]
  next negative => exact fun h => (List.mem_append.1 h).elim (hsign negative) (by simp [hi, hn, hf])
  next =>
    dsimp only
    split
    next num den _ =>
      intro h
      rcases List.mem_append.1 h with h | h
      · exact hsign _ h
      · split at h
        next => exact hdigits _ _ (List.mem_of_mem_take h)
        next =>
          rcases List.mem_append.1 h with h | h
          · exact hdigits _ _ (List.mem_of_mem_take h)
          · rcases List.mem_cons.1 h with h | h
            · exact hpoint h
            · exact hdigits _ _ (List.mem_of_mem_drop h)
    next => exact hsign _

theorem not_mem_noImprovement {c : Char} (hc : c ∈ ['(', '[']) (rounds : Nat) (best : Int) :
    c ∉ noImprovement rounds best := by
  have hsigns : ∀ c ∈ ['(', '['], c.isDigit = false ∧ c ≠ '-' ∧ c ∉ "no improvement in ".toList ∧
      c ∉ " rounds; best ".toList ∧ c ∉ " below".toList := by
    simp only [List.mem_cons, List.not_mem_nil, or_false, forall_eq_or_imp, forall_eq]
    decide
  obtain ⟨hdigit, hminus, hfirst, hsecond, hthird⟩ := hsigns c hc
  delta noImprovement
  simp only [List.mem_append, not_or]
  exact ⟨⟨⟨⟨hfirst, not_mem_toDigits hdigit _⟩, hsecond⟩, not_mem_intText hdigit hminus _⟩, hthird⟩

/-- No reason to stop has a bracket. -/
theorem not_mem_of_stopReason? {c : Char} (hc : c ∈ ['(', '[']) {r : Round} {past : List Int} {reason : List Char}
    (h : stopReason? r past = some reason) : c ∉ reason := by
  have hzero : ∀ c ∈ ['(', '['], c ∉ "0 below".toList := by
    simp only [List.mem_cons, List.not_mem_nil, or_false, forall_eq_or_imp, forall_eq]
    decide
  unfold stopReason? at h
  split at h
  next => cases h
  next n _ =>
    split at h
    next => cases h
    next =>
      split at h
      next =>
        cases h
        exact hzero c hc
      next =>
        split at h
        next p _ =>
          split at h
          next =>
            cases h
            exact not_mem_noImprovement hc p.since p.best
          next => cases h
        next => cases h

private theorem not_mem_advice {reason : List Char} (h : '[' ∉ reason) : '[' ∉ advice reason := by
  delta advice
  simp only [List.cons_append, List.mem_cons, List.mem_append, not_or]
  exact ⟨by decide, ⟨⟨by decide, h⟩, by decide⟩, by decide⟩

private theorem summary_eq_round (r : Round) (duration : Binary64) :
    ∃ rest, summary r duration = "[round ".toList ++ Nat.toDigits 10 r.number ++ ": ".toList ++ rest ∧ '[' ∉ rest := by
  have hdigits : ∀ n, '[' ∉ Nat.toDigits 10 n := not_mem_toDigits (by decide)
  have hfixed : ∀ places x, '[' ∉ Binary64.fixedText places x := not_mem_fixedText (by decide) (by decide)
  have hcount : ∀ (empty : Bool) (n m : Nat) (text : String), '[' ∉ text.toList → '[' ∉ if empty then [] else
      ", ".toList ++ (Nat.toDigits 10 n ++ ('/' :: Nat.toDigits 10 m ++ text.toList)) := by
    intro empty n m text htext
    cases empty with
    | true => exact List.not_mem_nil
    | false =>
      simp only [Bool.false_eq_true, if_false, List.mem_append, List.mem_cons, not_or]
      exact ⟨by decide, hdigits n, ⟨by decide, hdigits m⟩, htext⟩
  unfold summary
  dsimp only
  simp only [List.append_assoc]
  refine ⟨_, rfl, ?_⟩
  simp only [List.mem_append, not_or]
  exact ⟨hdigits _, by decide, hfixed _ _, by decide, hcount _ _ _ _ (by decide), hcount _ _ _ _ (by decide), by decide,
    hfixed _ _, by decide⟩

/-- The last lines of a round start with its number, and no other bracket is opened in them. -/
theorem closing_eq_round (r : Round) (past : List Int) (duration : Binary64) :
    ∃ after, closing r past duration =
      "\n[round ".toList ++ Nat.toDigits 10 r.number ++ ": ".toList ++ after ∧ '[' ∉ after := by
  obtain ⟨rest, hsummary, hrest⟩ := summary_eq_round r duration
  have hadvice : '[' ∉ ((stopReason? r past).map advice).getD [] := by
    cases hreason : stopReason? r past with
    | none => exact List.not_mem_nil
    | some reason => exact not_mem_advice (not_mem_of_stopReason? (by decide) hreason)
  refine ⟨rest ++ ['\n'] ++ ((stopReason? r past).map advice).getD [], ?_, ?_⟩
  · have hstart : "\n[round ".toList = '\n' :: "[round ".toList := by decide
    rw [closing, hsummary, hstart]
    simp only [List.append_assoc, List.cons_append]
  · simp only [List.mem_append, not_or]
    exact ⟨⟨hrest, by decide⟩, hadvice⟩

end Docsmith.Measure
