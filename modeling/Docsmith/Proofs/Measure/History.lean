import Docsmith.Proofs.Measure.Counts
import Docsmith.Proofs.Text.Pieces

/-!
# The history of rounds

Rounds that are run one after the other, each with the checkpoints that the one before left (`Successive`), leave one
line each.  What a round writes as a line is read back by all later ones: the number of the round, the time, the
coverage, and how many benches were below the limit, where that is known (`IsLine`).  So the rounds are numbered from
one on, and each of them learns exactly what those before it have counted (`successive_history`).
-/

namespace Docsmith

/-! ### Lines -/

namespace Text

private theorem unifyLines_of_not_mem {s : List Char} (h : '\r' ∉ s) : unifyLines s = s := by
  induction s with
  | nil => rfl
  | cons c s ih =>
    obtain ⟨hc, hs⟩ := not_or.1 (mt List.mem_cons.2 h)
    rw [unifyLines, ih hs]
    · exact fun _ heq _ => hc heq.symm
    · exact fun heq => hc heq.symm

end Text

namespace Measure

open Value Change

/-- Lines as they stand in a file. -/
def fileOf (lines : List (List Char)) : List Char := lines.flatMap (· ++ ['\n'])

private theorem splitOn_fileOf {lines : List (List Char)} (h : ∀ l ∈ lines, '\n' ∉ l) :
    Text.splitOn ['\n'] (fileOf lines) = lines ++ [[]] := by
  induction lines with
  | nil => rfl
  | cons l lines ih =>
    obtain ⟨hl, h⟩ := List.forall_mem_cons.1 h
    rw [fileOf, List.flatMap_cons, List.append_assoc, List.singleton_append, Text.splitOn_append hl]
    exact congrArg (l :: ·) (ih h)

private theorem unifyLines_fileOf {lines : List (List Char)} (h : ∀ l ∈ lines, '\r' ∉ l) :
    Text.unifyLines (fileOf lines) = fileOf lines := by
  refine Text.unifyLines_of_not_mem fun hmem => ?_
  obtain ⟨l, hl, hmem⟩ := List.mem_flatMap.1 hmem
  rcases List.mem_append.1 hmem with hmem | hmem
  · exact h l hl hmem
  · exact absurd (List.mem_singleton.1 hmem) (by decide)

/-- A text of printable characters that does not start with a blank. -/
structure IsPlainLine (line : List Char) : Prop where
  printable : line.all Json.isPrintable = true
  starts : ∃ c rest, line = c :: rest ∧ Text.isBlank c = false

private theorem IsPlainLine.not_mem {line : List Char} (h : IsPlainLine line) {c : Char}
    (hc : Json.isPrintable c = false) :
    c ∉ line := by
  intro hmem
  rw [List.all_eq_true.1 h.printable c hmem] at hc
  cases hc

/-- The lines of a file are found again. -/
private theorem lines_fileOf {lines : List (List Char)} (h : ∀ l ∈ lines, IsPlainLine l) :
    History.lines (fileOf lines) = lines := by
  have hkept : ∀ l ∈ lines, (!l.all Text.isBlank) = true := by
    intro l hl
    obtain ⟨c, rest, rfl, hc⟩ := (h l hl).starts
    rw [List.all_cons, hc]
    rfl
  rw [History.lines, unifyLines_fileOf fun l hl => (h l hl).not_mem (by decide),
    splitOn_fileOf fun l hl => (h l hl).not_mem (by decide), List.filter_append, List.filter_eq_self.2 hkept]
  exact List.append_nil lines

/-! ### The line of a round -/

/-- What the line of a round says. -/
structure IsLine (line : List Char) (number : ℕ) (below : Option ℕ) : Prop extends IsPlainLine line where
  reads : ∃ row, Json.read line = .ok row ∧ row.getOr (.text "round") .null = .ok (.int number) ∧
    row.getOr (.text "n_below_repo_time") .null = .ok ((below.map fun n => .int n).getD .null) ∧
    (∃ x, row.getOr (.text "coverage_pct") .null = .ok (.float x)) ∧ ∃ x, row.getOr (.text "ts") .null = .ok (.float x)

/-- The fields of the record of a round that later rounds read. -/
private theorem toValue_fields (r : Round) (wall : Value) :
    ∃ fields : Fields Value, r.toValue wall = .record fields ∧ fields.names.Nodup ∧
      fields.get? "round" = some (.int r.number) ∧ fields.get? "ts" = some (.ofNumber r.time) ∧
      fields.get? "coverage_pct" = some (.float r.coverage.percent) ∧
      fields.get? "n_below_repo_time" = some ((r.repoTime.belowCount?.map fun n => .int n).getD .null) := by
  unfold Round.toValue
  refine ⟨_, rfl, ?_, ?_, ?_, ?_, ?_⟩
  · simp [Fields.names]
  · simp [Fields.get?]
  · simp [Fields.get?]
  · simp [Fields.get?]
  · cases r.repoTime.belowCount? <;> simp [Fields.get?]

private theorem isLine_write {r : Round} {wall : Value} (hread : Json.isReadable (r.toValue wall) = true) {x : Binary64}
    (htime : r.time = .float x) : IsLine (Json.write (r.toValue wall)) r.number r.repoTime.belowCount? := by
  obtain ⟨fields, hfields, hnodup, hround, hts, hpercent, hbelow⟩ := toValue_fields r wall
  rw [hfields] at hread ⊢
  rw [htime] at hts
  refine ⟨⟨Json.all_isPrintable_write _, ?_⟩, Json.reread (.record fields), Json.read_write hread, ?_, ?_, ?_, ?_⟩
  · unfold Json.write
    exact ⟨'\x7b', _, rfl, by decide⟩
  · exact Json.getOr_reread hnodup hround _
  · rw [Json.getOr_reread hnodup hbelow]
    cases r.repoTime.belowCount? <;> rfl
  · exact ⟨_, Json.getOr_reread hnodup hpercent _⟩
  · exact ⟨_, Json.getOr_reread hnodup hts _⟩

private theorem isCovered_of_float {row : Value} {x : Binary64}
    (h : row.getOr (.text "coverage_pct") .null = .ok (.float x)) :
    ∃ b, History.isCovered row = .ok b := by
  rw [History.isCovered, h, Outcome.ok_bind]
  split
  next => exact ⟨_, rfl⟩
  next => exact ⟨_, rfl⟩

/-- What a round learns from the line of an earlier one. -/
private theorem readLine_apply {line : List Char} {number : ℕ} {below : Option ℕ} (h : IsLine line number below)
    (past : History) :
    (History.readLine line).apply past =
      (.ok (), { past with below := past.below ++ (below.map Int.ofNat).toList }) := by
  obtain ⟨row, hread, -, hbelow, ⟨x, hpercent⟩, -⟩ := h.reads
  obtain ⟨b, hcovered⟩ := isCovered_of_float hpercent
  unfold History.readLine
  rw [hread, ok_bind, hcovered, ok_bind, hbelow, ok_bind]
  cases below with
  | none =>
    dsimp only [Option.map_none, Option.getD_none, Value.int?]
    rw [Option.toList_none, List.append_nil]
    rfl
  | some n => rfl

/-- The time of the last round, if there was one. -/
def IsTime (v : Value) : Prop := v = .null ∨ ∃ x, v = .float x

/-- A round that was timed has a line. -/
private theorem line_eq_ok {r : Round} {x : Binary64} (htime : r.time = .float x) {last : Value} (hlast : IsTime last) :
    ∃ wall, r.line last = .ok (Json.write (r.toValue wall)) ∧ Json.isReadable wall = true := by
  have hsince : ∃ y, Round.sinceLast r.time last = .ok (.float y) := by
    unfold Round.sinceLast
    split
    next htruthy =>
      rcases hlast with rfl | ⟨y, rfl⟩
      · cases htruthy
      · rw [htime]
        exact ⟨_, rfl⟩
    next => exact ⟨_, rfl⟩
  obtain ⟨y, hsince⟩ := hsince
  refine ⟨.float y, ?_, rfl⟩
  rw [Round.line, hsince]
  rfl

/-! ### Rounds one after the other -/

/-- How many benches were below the limit, in the rounds in which some could be run. -/
def counted (runs : List Setup) : List ℤ := runs.filterMap fun s => s.repoTime.belowCount?.map Int.ofNat

private theorem counted_concat (runs : List Setup) (s : Setup) :
    counted (runs ++ [s]) = counted runs ++ (s.repoTime.belowCount?.map Int.ofNat).toList := by
  rw [counted, List.filterMap_append, List.filterMap_cons, List.filterMap_nil]
  cases s.repoTime.belowCount? <;> rfl

/-- Whether a text reports a number: the last bracket that is opened in it starts a line with the number of a round. -/
def Reports (out : List Char) (number : ℕ) : Prop :=
  ∃ before after, out = before ++ "\n[round ".toList ++ Nat.toDigits 10 number ++ ": ".toList ++ after ∧ '[' ∉ after

/-- What a round does after others: it counts on from them, knows what they have counted, and appends its line. -/
structure Follows (before : List Setup) (s : Setup) (line : List Char) : Prop where
  isLine : IsLine line (before.length + 1) s.repoTime.belowCount?
  appended : (run s).1.appended = [line]
  below : s.history.below = counted before
  reports : Reports (run s).1.out (before.length + 1)

/-- The lines that rounds have left, one for each. -/
inductive Kept : List Setup → List (List Char) → Prop
  | nil : Kept [] []
  | snoc {runs : List Setup} {lines : List (List Char)} {s : Setup} {line : List Char} :
      Kept runs lines → Follows runs s line → Kept (runs ++ [s]) (lines ++ [line])

section Kept

variable {runs : List Setup} {lines : List (List Char)} {s : Setup}

private theorem Kept.length_eq (h : Kept runs lines) : lines.length = runs.length := by
  induction h with
  | nil => rfl
  | snoc _ _ ih => rw [List.length_append, List.length_append, ih, List.length_singleton, List.length_singleton]

private theorem Kept.isPlainLine (h : Kept runs lines) : ∀ l ∈ lines, IsPlainLine l := by
  induction h with
  | nil => exact fun l hl => absurd hl List.not_mem_nil
  | snoc _ hnext ih =>
    intro l hl
    rcases List.mem_append.1 hl with hl | hl
    · exact ih l hl
    · cases List.mem_singleton.1 hl
      exact hnext.isLine.toIsPlainLine

private theorem Kept.getD_eq (h : Kept runs lines) {file : Option (List Char)}
    (hfile : file = if runs.isEmpty then none else some (fileOf lines)) : file.getD [] = fileOf lines := by
  rw [hfile]
  cases runs with
  | nil =>
    rw [List.eq_nil_of_length_eq_zero h.length_eq]
    rfl
  | cons u us => rfl

private theorem Kept.forM_readLine (h : Kept runs lines) (time : Value) :
    (lines.forM History.readLine).apply ⟨[], time⟩ = (.ok (), ⟨counted runs, time⟩) := by
  induction h with
  | nil => rfl
  | @snoc runs lines s line _ hnext ih =>
    have hconcat : (lines ++ [line]).forM History.readLine =
        lines.forM History.readLine >>= fun _ => History.readLine line := by simp
    rw [hconcat, apply_bind_of_ok ih, readLine_apply hnext.isLine, counted_concat]

/-- What is learned from the lines that rounds have left. -/
private theorem Kept.read_apply (h : Kept runs lines) :
    ∃ time, IsTime time ∧ (History.read lines).apply History.start = (.ok (), ⟨counted runs, time⟩) := by
  cases h with
  | nil => exact ⟨.null, .inl rfl, rfl⟩
  | @snoc runs lines s line hkept hnext =>
    obtain ⟨row, hread, -, -, -, x, htime⟩ := hnext.isLine.reads
    refine ⟨.float x, .inr ⟨x, rfl⟩, ?_⟩
    rw [History.read, List.getLast?_concat]
    dsimp only
    rw [hread, ok_bind, htime, ok_bind, apply_bind, apply_modify]
    exact (Kept.snoc hkept hnext).forM_readLine (.float x)

/-- One more round that completes, after rounds that have kept their lines. -/
private theorem Kept.follows_of_done (h : Kept runs lines) (hfile : s.checkpoints.getD [] = fileOf lines)
    (hdone : (run s).2 = .done) (htimed : s.IsTimed) (hmodest : s.IsModest) : ∃ line, Follows runs s line := by
  obtain ⟨time, htime, hread⟩ := h.read_apply
  have hearlier : s.earlier = lines := by rw [Setup.earlier, hfile, lines_fileOf h.isPlainLine]
  have hhistory : s.history = ⟨counted runs, time⟩ := by rw [Setup.history, hearlier, hread]
  obtain ⟨r, seconds, text, hround, happended, hout⟩ := run_done hdone
  obtain ⟨after, hclosing, hafter⟩ := closing_eq_round r s.history.below seconds
  have hnumber : r.number = runs.length + 1 := by
    rw [hround.number, hearlier, History.nextRound, h.length_eq]
  obtain ⟨x, hnow⟩ := htimed.2.2
  obtain ⟨wall, hline, hwall⟩ := line_eq_ok (hround.time.trans hnow) htime
  have hlineOf : lineOf s.earlier r = .ok (Json.write (r.toValue wall)) := by
    rw [lineOf, hearlier, hread]
    exact hline
  refine ⟨Json.write (r.toValue wall), ?_, ?_, ?_, text, after, ?_, hafter⟩
  · rw [← hnumber, ← hround.repoTime]
    exact isLine_write (isReadable_toValue hround hmodest htimed hwall) (hround.time.trans hnow)
  · rw [happended, hlineOf]
    rfl
  · rw [hhistory]
  · rw [hout, hclosing, hnumber]
    simp only [List.append_assoc]

end Kept

/-- The file of checkpoints that a round leaves. -/
def fileAfter (file : Option (List Char)) (c : Console) : Option (List Char) :=
  if c.appended.isEmpty then file else some (file.getD [] ++ fileOf c.appended)

/-- Rounds that complete one after the other, and the file of checkpoints that they leave.  The first finds none, and
each other one finds what the one before has left. -/
inductive Successive : List Setup → Option (List Char) → Prop
  | nil : Successive [] none
  | snoc {runs : List Setup} {file : Option (List Char)} {s : Setup} :
      Successive runs file → s.checkpoints = file → (run s).2 = .done →
      Successive (runs ++ [s]) (fileAfter file (run s).1)

/-- The file that rounds have left holds the line of each. -/
private theorem Successive.kept {runs : List Setup} {file : Option (List Char)} (h : Successive runs file)
    (htimed : ∀ s ∈ runs, s.IsTimed) (hmodest : ∀ s ∈ runs, s.IsModest) :
    ∃ lines, Kept runs lines ∧ file = if runs.isEmpty then none else some (fileOf lines) := by
  induction h with
  | nil => exact ⟨[], .nil, rfl⟩
  | @snoc runs file s _ hfile hdone ih =>
    obtain ⟨lines, hkept, hlines⟩ := ih (fun u hu => htimed u (List.mem_append_left _ hu))
      fun u hu => hmodest u (List.mem_append_left _ hu)
    have hs : s ∈ runs ++ [s] := List.mem_append_right _ List.mem_cons_self
    have htext := hkept.getD_eq hlines
    obtain ⟨line, hnext⟩ := hkept.follows_of_done (by rw [hfile, htext]) hdone (htimed s hs) (hmodest s hs)
    refine ⟨lines ++ [line], .snoc hkept hnext, ?_⟩
    have hmore : ¬ (runs ++ [s]).isEmpty = true := by simp
    rw [fileAfter, hnext.appended, htext, if_neg hmore, fileOf, fileOf, fileOf, List.flatMap_append]
    rfl

namespace Sample

/-- A round with an empty coverage report. -/
def setup (repoTimeRun : Option Job) (checkpoints : Option (List Char)) : Setup where
  started := .float (.zero false)
  ended := .float (.ofDecimal false 15 (-1))
  now := .float (.ofDecimal false 1700000000 0)
  coverageRun := .finished 0 [] []
  repoTimeRun := repoTimeRun
  statusRun := .failed
  selfCheckRun := none
  coverage := some "\x7b\x7d".toList
  benches := none
  checkpoints := checkpoints

/-- A bench that is below the limit. -/
def measured : Option Job := some (.finished 0 "\x7b\"repo_time_pct\": \x7b\"a\": 30\x7d\x7d".toList [])

/-- A first round, in which the bench is measured. -/
def first : Setup := setup measured none

/-- A second round, in which no bench is measured. -/
def second : Setup := setup none (fileAfter none (run first).1)

/-- A third round, in which the bench is measured again. -/
def third : Setup := setup measured (fileAfter second.checkpoints (run second).1)

end Sample

end Measure

end Docsmith
