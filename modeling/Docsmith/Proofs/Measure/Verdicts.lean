import Mathlib.Data.List.TakeWhile
import Docsmith.Proofs.Measure.Report

/-!
# What is kept of a broken self-check

The benches of a self-check are judged one after the other.  A fault with one of them ends the reading, but what was
read before it stays: the verdicts kept are those on the benches before the first one that cannot be judged
(`checkAll_apply`), which is neither all nor nothing when a sound bench comes before a broken one
(`verdicts_kept_up_to_fault`).
-/

namespace Docsmith.Measure

open Change

/-! ### Descriptions of benches -/

/-- Whether a value describes a bench. -/
def isDescription : Value → Bool
  | .record _ => true
  | _ => false

/-- The entries of a self-check that describe a bench; others are passed over. -/
def described (entries : Fields Value) : Fields Value := entries.filter fun e => isDescription e.2

/-- Whether a bench can be judged. -/
def isSound (judge : Value → Outcome Judgement) (e : String × Value) : Bool := (judge e.2).isOk

/-- The verdict on a bench that can be judged. -/
def verdictOn? (judge : Value → Outcome Judgement) (e : String × Value) : Option Checked :=
  (judge e.2).toOption.map fun judgement => ⟨judgement, e.1⟩

/-- The verdicts on the benches before the first that cannot be judged. -/
def soundVerdicts (judge : Value → Outcome Judgement) (entries : Fields Value) : List Checked :=
  ((described entries).takeWhile (isSound judge)).filterMap (verdictOn? judge)

private theorem described_cons (e : String × Value) (entries : Fields Value) :
    described (e :: entries) = if isDescription e.2 then e :: described entries else described entries :=
  List.filter_cons

section Cons

variable {name : String} {v : Value} {entries : Fields Value} (judge : Value → Outcome Judgement)

private theorem described_cons_of_not (hv : isDescription v = false) :
    described ((name, v) :: entries) = described entries := by
  rw [described_cons, hv]
  rfl

private theorem described_cons_of_is (hv : isDescription v = true) :
    described ((name, v) :: entries) = (name, v) :: described entries := by
  rw [described_cons, hv]
  rfl

private theorem soundVerdicts_cons_of_ok (hv : isDescription v = true) {judgement : Judgement}
    (hj : judge v = .ok judgement) :
    soundVerdicts judge ((name, v) :: entries) = ⟨judgement, name⟩ :: soundVerdicts judge entries := by
  have hsound : isSound judge (name, v) = true := by
    rw [isSound, hj]
    rfl
  have hverdict : verdictOn? judge (name, v) = some ⟨judgement, name⟩ := by
    rw [verdictOn?, hj]
    rfl
  rw [soundVerdicts, described_cons_of_is hv, List.takeWhile_cons, if_pos hsound, List.filterMap_cons_some hverdict]
  rfl

private theorem soundVerdicts_cons_of_error (hv : isDescription v = true) {fault : Fault}
    (hj : judge v = .error fault) :
    soundVerdicts judge ((name, v) :: entries) = [] := by
  have hbroken : ¬ isSound judge (name, v) = true := by
    rw [isSound, hj]
    exact Bool.false_ne_true
  rw [soundVerdicts, described_cons_of_is hv, List.takeWhile_cons, if_neg hbroken]
  rfl

private theorem checkAll_cons_of_is (hv : isDescription v = true) :
    checkAll judge ((name, v) :: entries) = (do
      let judgement ← judge v
      modify fun done => done ++ [⟨judgement, name⟩]
      checkAll judge entries) := by
  cases v with
  | record fields => rfl
  | _ => cases hv

private theorem checkAll_cons_of_not (hv : isDescription v = false) :
    checkAll judge ((name, v) :: entries) = checkAll judge entries := by
  cases v with
  | record fields => cases hv
  | _ => rfl

end Cons

/-- Whatever ends the reading of benches, the verdicts before it stay. -/
private theorem checkAll_apply (judge : Value → Outcome Judgement) (entries : Fields Value) (done : List Checked) :
    ((checkAll judge entries).apply done).2 = done ++ soundVerdicts judge entries := by
  induction entries generalizing done with
  | nil => exact (List.append_nil done).symm
  | cons e entries ih =>
    obtain ⟨name, v⟩ := e
    cases hv : isDescription v with
    | false =>
      rw [checkAll_cons_of_not judge hv, soundVerdicts, described_cons_of_not hv]
      exact ih done
    | true =>
      rw [checkAll_cons_of_is judge hv]
      cases hj : judge v with
      | error fault =>
        rw [soundVerdicts_cons_of_error judge hv hj, List.append_nil]
        rfl
      | ok judgement =>
        rw [soundVerdicts_cons_of_ok judge hv hj, List.append_cons]
        exact ih (done ++ [⟨judgement, name⟩])

/-! ### All or nothing -/

private theorem map_name_filterMap {judge : Value → Outcome Judgement} {entries : Fields Value}
    (h : entries.all (isSound judge) = true) :
    (entries.filterMap (verdictOn? judge)).map Checked.name = entries.map (·.1) := by
  induction entries with
  | nil => rfl
  | cons e entries ih =>
    rw [List.all_cons, Bool.and_eq_true] at h
    obtain ⟨he, h⟩ := h
    unfold isSound at he
    cases hj : judge e.2 with
    | error fault =>
      rw [hj] at he
      cases he
    | ok judgement =>
      have hverdict : verdictOn? judge e = some ⟨judgement, e.1⟩ := by
        rw [verdictOn?, hj]
        rfl
      rw [List.filterMap_cons_some hverdict, List.map_cons, List.map_cons, ih h]

private theorem map_name_soundVerdicts (judge : Value → Outcome Judgement) (entries : Fields Value) :
    (soundVerdicts judge entries).map Checked.name = ((described entries).takeWhile (isSound judge)).map (·.1) :=
  map_name_filterMap List.all_takeWhile

/-- The verdicts are all or none exactly if all descriptions can be read or the first cannot. -/
private theorem all_or_none_iff (judge : Value → Outcome Judgement) (entries : Fields Value) :
    ((soundVerdicts judge entries).map Checked.name = (described entries).map (·.1) ∨
        soundVerdicts judge entries = []) ↔
      (described entries).all (isSound judge) = true ∨
        ∃ e, (described entries).head? = some e ∧ isSound judge e = false := by
  have hnames := map_name_soundVerdicts judge entries
  have hnil : soundVerdicts judge entries = [] ↔ (described entries).takeWhile (isSound judge) = [] := by
    rw [← List.map_eq_nil_iff (f := Checked.name), hnames, List.map_eq_nil_iff]
  rw [hnames, hnil]
  constructor
  · rintro (hall | hnone)
    · have hlength := congrArg List.length hall
      rw [List.length_map, List.length_map] at hlength
      have hself := (List.takeWhile_prefix (isSound judge)).eq_of_length hlength
      exact .inl (List.all_eq_true.2 (List.takeWhile_eq_self_iff.1 hself))
    · cases hentries : described entries with
      | nil => exact .inl rfl
      | cons e rest =>
        rw [hentries, List.takeWhile_eq_nil_iff] at hnone
        exact .inr ⟨e, rfl, Bool.eq_false_iff.2 (hnone (Nat.succ_pos _))⟩
  · rintro (hall | ⟨e, hfirst, he⟩)
    · left
      rw [List.takeWhile_eq_self_iff.2 (List.all_eq_true.1 hall)]
    · right
      obtain ⟨rest, hentries⟩ := List.head?_eq_some_iff.1 hfirst
      rw [hentries, List.takeWhile_cons, he]
      rfl

/-! ### The output of a self-check -/

/-- The entries that the output of a self-check has, if it can be read that far. -/
def reportedEntries (out : List Char) : Outcome (Fields Value) := do
  fieldsOf "items" (← part "semcheck" (← lastValue out))

private theorem readChecks_apply {judge : Value → Outcome Judgement} {data : Value} {entries : Fields Value}
    (done : List Checked) (h : (do fieldsOf "items" (← part "semcheck" data)) = .ok entries) :
    (readChecks judge data).apply done = (checkAll judge entries).apply done := by
  obtain ⟨checks, hchecks, hentries⟩ := Outcome.bind_eq_ok.1 h
  rw [readChecks, hchecks, ok_bind, hentries, ok_bind]

private theorem runnerState_of_error {out err : List Char} {fault : Fault} (h : reportedEntries out = .error fault)
    (code : Int)
    (judge : Value → Outcome Judgement) : runnerState (some (.finished code out err)) [] (readChecks judge) = [] := by
  unfold runnerState
  dsimp only
  cases hvalue : lastValue out with
  | error fault => rfl
  | ok data =>
    dsimp only
    rw [reportedEntries, hvalue, Outcome.ok_bind] at h
    unfold readChecks
    rcases Outcome.bind_eq_error.1 h with hpart | ⟨checks, hpart, hentries⟩
    · rw [hpart, error_bind]
      rfl
    · rw [hpart, ok_bind, hentries, error_bind]
      rfl

private theorem runnerState_of_ok {out err : List Char} {entries : Fields Value} (h : reportedEntries out = .ok entries)
    (code : Int) (judge : Value → Outcome Judgement) :
    runnerState (some (.finished code out err)) [] (readChecks judge) = soundVerdicts judge entries := by
  obtain ⟨data, hvalue, h⟩ := Outcome.bind_eq_ok.1 h
  unfold runnerState
  dsimp only
  rw [hvalue]
  dsimp only
  rw [readChecks_apply [] h, checkAll_apply, List.nil_append]

/-- Reading the output of a self-check never fails, and keeps the verdicts on the benches before the first one that
cannot be judged; so it keeps all or none exactly if all of them can be judged or the first cannot.  This is so whatever
it takes to judge a bench. -/
theorem verdicts_kept_up_to_fault (judge : Value → Outcome Judgement) (code : Int) (out err : List Char) (c : Console) :
    ∃ kept notices, (readRunner "semcheck" (some (.finished code out err)) [] (readChecks judge)).apply c =
        (.ok kept, { c with notices := notices }) ∧
      (∀ fault, reportedEntries out = .error fault → kept = []) ∧
      ∀ entries, reportedEntries out = .ok entries →
        kept = ((described entries).takeWhile (isSound judge)).filterMap (verdictOn? judge) ∧
        ((kept.map Checked.name = (described entries).map (·.1) ∨ kept = []) ↔
          (described entries).all (isSound judge) = true ∨
            ∃ e, (described entries).head? = some e ∧ isSound judge e = false) := by
  obtain ⟨notices, hread⟩ :=
    readRunner_apply "semcheck" (some (.finished code out err)) [] (readChecks judge) c
  refine ⟨_, notices, hread, fun fault hfault => ?_, fun entries hentries => ?_⟩
  · exact runnerState_of_error hfault code judge
  · rw [runnerState_of_ok hentries code judge]
    exact ⟨rfl, all_or_none_iff judge entries⟩

namespace Sample

/-- A self-check of two benches, with a time of the second that is no number. -/
def brokenOutput : List Char :=
  "\x7b\"semcheck\": \x7b\"a\": \x7b\x7d, \"b\": \x7b\"repo_tt_ms\": \x7b\"x\": \"y\"\x7d\x7d\x7d\x7d".toList

end Sample

/-- Of two benches, the verdict on the first stays although the second cannot be read. -/
theorem verdict_outlives_fault :
    ((reportedEntries Sample.brokenOutput).toOption.map fun entries => (described entries).map (·.1)) =
        some ["a", "b"] ∧
      (((readRunner "semcheck" (some (.finished 0 Sample.brokenOutput [])) []
        (readChecks (Observation.judge false))).apply .empty).1.toOption.map
        fun kept => kept.map Checked.name) = some ["a"] := by
  constructor
  · decide +kernel
  · decide +kernel

end Docsmith.Measure
