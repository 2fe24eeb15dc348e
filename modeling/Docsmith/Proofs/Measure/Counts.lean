import Docsmith.Proofs.Json.Content
import Docsmith.Proofs.Json.Roundtrip
import Docsmith.Proofs.Measure.Report
import Docsmith.Proofs.Value.Access

/-!
# What a round counts

Everything that a round counts is bounded by the length of a text that it reads, and every integer that it takes from
a report was short enough to be read.  So a round whose texts are not too long (`Setup.IsModest`) and whose clocks are
binary64 numbers (`Setup.IsTimed`) has a record that can be read back (`isReadable_toValue`).
-/

namespace Docsmith

/-! ### Texts -/

namespace Text

private theorem length_splitFrom_le (sep : List Char) (k : ℕ) (acc s : List Char) :
    (splitFrom sep k acc s).length ≤ s.length + 1 := by
  induction k, acc, s using splitFrom.induct sep with
  | case1 k acc => simp [splitFrom]
  | case2 k acc c s ih =>
    rw [splitFrom, List.length_cons]
    omega
  | case3 acc c s hprefix ih =>
    rw [splitFrom, if_pos hprefix, List.length_cons, List.length_cons]
    omega
  | case4 acc c s hprefix ih =>
    rw [splitFrom, if_neg hprefix, List.length_cons]
    omega

private theorem length_unifyLines_le (s : List Char) : (unifyLines s).length ≤ s.length := by
  induction s using unifyLines.induct with
  | case1 => exact Nat.le_refl _
  | case2 s ih =>
    rw [unifyLines, List.length_cons, List.length_cons, List.length_cons]
    omega
  | case3 s hnext ih =>
    rw [unifyLines, List.length_cons, List.length_cons]
    · omega
    · exact hnext
  | case4 c s h1 h2 ih =>
    rw [unifyLines, List.length_cons, List.length_cons]
    · omega
    · exact h1
    · exact h2

private theorem length_le_of_mem_linesFrom {acc : Option (List Char)} {s l : List Char} (h : l ∈ linesFrom acc s) :
    l.length ≤ (acc.getD []).length + s.length := by
  induction acc, s using linesFrom.induct with
  | case1 acc =>
    rw [linesFrom] at h
    cases acc with
    | none => cases h
    | some acc =>
      cases List.mem_singleton.1 h
      rw [List.length_reverse]
      exact Nat.le_add_right _ _
  | case2 acc s ih =>
    rw [linesFrom] at h
    rcases List.mem_cons.1 h with rfl | h
    · rw [List.length_reverse]
      omega
    · have := ih h
      simp only [Option.getD_none, List.length_nil, List.length_cons] at this ⊢
      omega
  | case3 acc c s hcrlf hends ih =>
    rw [linesFrom, if_pos hends] at h
    · rcases List.mem_cons.1 h with rfl | h
      · rw [List.length_reverse]
        omega
      · have := ih h
        simp only [Option.getD_none, List.length_nil, List.length_cons] at this ⊢
        omega
    · exact hcrlf
  | case4 acc c s hcrlf hends ih =>
    rw [linesFrom, if_neg hends] at h
    · have := ih h
      simp only [Option.getD_some, List.length_cons] at this ⊢
      omega
    · exact hcrlf

end Text

/-! ### Values from a text -/

namespace Value

variable {n : ℕ} {v w : Value}

private theorem isDigit_of_mem_readDigits {s : List Char} {c : Char} (h : c ∈ (readDigits s).1) : c.isDigit = true := by
  induction s using readDigits.induct with
  | case1 => cases h
  | case2 d hd =>
    rw [readDigits, if_pos hd] at h
    cases List.mem_singleton.1 h
    exact hd
  | case3 d hd =>
    rw [readDigits, if_neg hd] at h
    cases h
  | case4 d u hd hu e s he digits rest hrest ih =>
    rw [readDigits, if_pos hd, if_pos hu] at h
    simp only [if_pos he] at h
    rcases List.mem_cons.1 h with rfl | h
    · exact hd
    · exact ih h
  | case5 d u hd hu e s he =>
    rw [readDigits, if_pos hd, if_pos hu] at h
    simp only [if_neg he] at h
    cases List.mem_singleton.1 h
    exact hd
  | case6 d u hd hu =>
    rw [readDigits, if_pos hd, if_pos hu] at h
    cases List.mem_singleton.1 h
    exact hd
  | case7 d e s hd he digits rest hrest ih =>
    unfold readDigits at h
    simp only [if_pos hd, if_neg he] at h
    rcases List.mem_cons.1 h with rfl | h
    · exact hd
    · exact ih h
  | case8 d e s hd =>
    unfold readDigits at h
    simp only [if_neg hd] at h
    cases h

private theorem parseInt?_isShort {s : List Char} {k : ℤ} (h : parseInt? s = some k) : IsShort k.natAbs := by
  unfold parseInt? at h
  dsimp only at h
  split at h
  next => cases h
  next hdigits =>
    have hlength : (readDigits (readSign (Text.trim s)).2).1.length ≤ maxDigits := by
      simp only [Bool.or_eq_true, decide_eq_true_eq, not_or, not_lt] at hdigits
      exact hdigits.2
    have hshort := Json.isShort_digitsValue (fun c hc => isDigit_of_mem_readDigits hc) hlength
    rw [← Option.some.inj h]
    split
    next => rwa [Int.natAbs_neg]
    next => exact hshort

private theorem floor?_of_floor {x : Binary64} {k : ℤ} (h : (Number.float x).floor = .ok k) : x.floor? = some k := by
  cases x with
  | nan => cases h
  | infinity negative => cases h
  | finite negative m e =>
    rw [Number.floor] at h
    · split at h
      next hfloor =>
        cases h
        exact hfloor
      next => cases h
    · exact fun heq => by cases heq

private theorem ceil?_of_ceil {x : Binary64} {k : ℤ} (h : (Number.float x).ceil = .ok k) : x.ceil? = some k := by
  cases x with
  | nan => cases h
  | infinity negative => cases h
  | finite negative m e =>
    rw [Number.ceil] at h
    · split at h
      next hceil =>
        cases h
        exact hceil
      next => cases h
    · exact fun heq => by cases heq

/-- An integer that is taken from a value fits where the value does. -/
private theorem toInt_isShort (hv : Fits n v) {k : ℤ} (h : v.toInt = .ok k) : IsShort k.natAbs := by
  cases v with
  | bool b =>
    cases b <;> cases h <;> decide
  | int m =>
    cases h
    exact hv
  | float x =>
    refine Binary64.isShort_truncated hv ?_
    rw [toInt] at h
    split at h
    next hnegative => rw [if_pos hnegative, ceil?_of_ceil h]
    next hpositive => rw [if_neg hpositive, floor?_of_floor h]
  | text s =>
    rw [toInt] at h
    split at h
    next m hm =>
      cases h
      exact parseInt?_isShort hm
    next => cases h
  | _ => cases h

private theorem size_le (hv : Fits n v) {k : ℕ} (h : v.size = .ok k) : k ≤ n := by
  cases v with
  | list items =>
    cases h
    exact hv
  | text s =>
    cases h
    exact hv
  | record fields =>
    cases h
    exact hv
  | _ => cases h

private theorem getOr_fits {key fallback : Value} (hv : All (Fits n) v) (hfallback : All (Fits n) fallback)
    (h : v.getOr key fallback = .ok w) : All (Fits n) w := by
  cases v with
  | record fields =>
    rw [getOr, Outcome.bind_eq_ok] at h
    obtain ⟨found, -, h⟩ := h
    split at h
    next =>
      obtain ⟨name, -, hget⟩ := lookup_eq_ok h
      exact hv.field _ (Fields.mem_of_get? hget)
    next =>
      cases h
      exact hfallback
  | creature attributes => exact hv.here.elim
  | _ => cases h

end Value

namespace Measure

open Value Change

variable {n : ℕ} {v w data : Value}

private theorem all_fits_empty (n : ℕ) : All (Fits n) (.record []) :=
  all_record (Nat.zero_le n) fun _ hf => absurd hf List.not_mem_nil

private theorem all_fits_null (n : ℕ) : All (Fits n) .null := by
  refine .of_scalar ?_ rfl
  exact trivial

private theorem all_fits_zero (n : ℕ) : All (Fits n) (.int 0) := by
  refine .of_scalar ?_ rfl
  rw [Fits]
  decide

private theorem part_fits {name : String} (hv : All (Fits n) v) (h : part name v = .ok w) : All (Fits n) w := by
  unfold part at h
  obtain ⟨p, hp, h⟩ := Outcome.bind_eq_ok.1 h
  cases h
  split
  next => exact getOr_fits hv (all_fits_null n) hp
  next => exact all_fits_empty n

private theorem length_fieldsOf_le {method : String} {fields : Fields Value} (hv : Fits n v)
    (h : fieldsOf method v = .ok fields) : fields.length ≤ n := by
  cases v with
  | record fields' =>
    cases h
    exact hv
  | _ => cases h

/-! ### Reports -/

private theorem Coverage.ofValue_counts {c : Coverage} (hdata : All (Fits n) data) (h : Coverage.ofValue data = .ok c) :
    IsShort c.covered.natAbs ∧ IsShort c.statements.natAbs ∧ c.errorCount ≤ n := by
  unfold Coverage.ofValue at h
  obtain ⟨totals, htotals, h⟩ := Outcome.bind_eq_ok.1 h
  obtain ⟨_, -, h⟩ := Outcome.bind_eq_ok.1 h
  obtain ⟨_, -, h⟩ := Outcome.bind_eq_ok.1 h
  obtain ⟨coveredValue, hcoveredValue, h⟩ := Outcome.bind_eq_ok.1 h
  obtain ⟨covered, hcovered, h⟩ := Outcome.bind_eq_ok.1 h
  obtain ⟨statementsValue, hstatementsValue, h⟩ := Outcome.bind_eq_ok.1 h
  obtain ⟨statements, hstatements, h⟩ := Outcome.bind_eq_ok.1 h
  obtain ⟨meta', hmeta, h⟩ := Outcome.bind_eq_ok.1 h
  obtain ⟨errors, herrors, h⟩ := Outcome.bind_eq_ok.1 h
  obtain ⟨errorCount, herrorCount, h⟩ := Outcome.bind_eq_ok.1 h
  obtain ⟨_, -, h⟩ := Outcome.bind_eq_ok.1 h
  cases h
  have htotals := part_fits hdata htotals
  exact ⟨toInt_isShort (getOr_fits htotals (all_fits_zero n) hcoveredValue).here hcovered,
    toInt_isShort (getOr_fits htotals (all_fits_zero n) hstatementsValue).here hstatements,
    size_le (part_fits (part_fits hdata hmeta) herrors).here herrorCount⟩

private theorem lastValue_fits {out : List Char} (h : lastValue out = .ok data) : All (Fits out.length) data := by
  unfold lastValue at h
  split at h
  next =>
    cases h
    exact all_fits_empty _
  next =>
    cases h
    exact all_fits_empty _
  next line hne hlast =>
    have hlength := Text.length_le_of_mem_linesFrom (List.mem_of_getLast? hlast)
    rw [Option.getD_none, List.length_nil, Nat.zero_add] at hlength
    exact (Json.all_fits_of_read h).imp fun _ => Fits.mono hlength

/-- What a process has printed. -/
def output : Option Job → List Char
  | some (.finished _ out _) => out
  | _ => []

/-- What a runner is read into is no larger than what it has printed. -/
private theorem runnerState_le {σ : Type} (size : σ → ℕ) {start : σ} {read : Value → Change σ Unit}
    (hstart : size start = 0)
    (hread : ∀ n data, All (Fits n) data → size ((read data).apply start).2 ≤ n) (process : Option Job) :
    size (runnerState process start read) ≤ (output process).length := by
  have hzero : size start ≤ (output process).length := hstart ▸ Nat.zero_le _
  unfold runnerState
  split
  next code out err =>
    split
    next data hdata => exact hread _ data (lastValue_fits hdata)
    next => exact hzero
  next => exact hzero

private theorem preserves_length_shares (hdata : All (Fits n) data) :
    Preserves (fun t : RepoTime => t.shares.length ≤ n) (RepoTime.read data) := by
  unfold RepoTime.read
  refine preserves_liftM_bind fun p hp => preserves_liftM_bind fun fields hfields => ?_
  have hlength := length_fieldsOf_le (part_fits hdata hp).here hfields
  have hshares : Preserves (fun t : RepoTime => t.shares.length ≤ n)
      (fields.mapM fun f => do return (f.1, ← f.2.toFloat) : Change RepoTime (Fields Binary64)) :=
    preserves_mapM fun f => preserves_liftM_bind fun x _ => preserves_pure _
  refine hshares.bind_of_ok fun shares t t' h => ?_
  refine (preserves_modify fun _ _ => ?_).bind fun _ => ?_
  · rw [length_of_mapM h]
    exact hlength
  · exact preserves_liftM_bind fun _ _ => preserves_liftM_bind fun _ _ => preserves_modify fun _ h => h

private theorem length_checkAll_le (judge : Value → Outcome Judgement) (fields : Fields Value) (done : List Checked) :
    ((checkAll judge fields).apply done).2.length ≤ done.length + fields.length := by
  induction fields generalizing done with
  | nil => exact Nat.le_refl _
  | cons f fields ih =>
    obtain ⟨name, v⟩ := f
    unfold checkAll
    dsimp only
    rw [List.length_cons]
    split
    next record =>
      cases hvalue : judge (.record record) with
      | error fault => exact Nat.le_add_right _ _
      | ok judgement =>
        have hrest := ih (done ++ [⟨judgement, name⟩])
        rw [List.length_append, List.length_singleton] at hrest
        exact Nat.le_trans hrest (by omega)
    next => exact Nat.le_succ_of_le (ih done)

private theorem length_readChecks_le (judge : Value → Outcome Judgement) (hdata : All (Fits n) data) :
    ((readChecks judge data).apply []).2.length ≤ n := by
  unfold readChecks
  rw [apply_bind, apply_liftM]
  cases hpart : part "semcheck" data with
  | error fault => exact Nat.zero_le n
  | ok p =>
    dsimp only
    rw [apply_bind, apply_liftM]
    cases hfields : fieldsOf "items" p with
    | error fault => exact Nat.zero_le n
    | ok fields =>
      have hlength := length_fieldsOf_le (part_fits hdata hpart).here hfields
      have hchecked := length_checkAll_le judge fields []
      rw [List.length_nil, Nat.zero_add] at hchecked
      exact hchecked.trans hlength

/-! ### The record of a round -/

namespace Setup

/-- The texts of which a round counts something. -/
def texts (s : Setup) : List (List Char) :=
  [s.coverage.getD [], s.benches.getD [], s.checkpoints.getD [], output s.repoTimeRun, output s.selfCheckRun]

/-- Whether the number of characters in each text, and a few more, can be written and read. -/
def IsModest (s : Setup) : Prop := ∀ text ∈ s.texts, IsShort (text.length + 2)

instance (s : Setup) : Decidable s.IsModest := inferInstanceAs (Decidable (∀ text ∈ s.texts, _))

/-- Whether the clocks show binary64 numbers. -/
def IsTimed (s : Setup) : Prop :=
  (∃ x, s.started = .float x) ∧ (∃ x, s.ended = .float x) ∧ ∃ x, s.now = .float x

private theorem length_shares_le (s : Setup) : s.repoTime.shares.length ≤ (output s.repoTimeRun).length :=
  runnerState_le (fun t : RepoTime => t.shares.length) rfl
    (fun n _ hdata => preserves_length_shares hdata RepoTime.empty (Nat.zero_le n)) s.repoTimeRun

private theorem length_checked_le (s : Setup) : s.checked.length ≤ (output s.selfCheckRun).length :=
  runnerState_le List.length rfl (fun _ _ hdata => length_readChecks_le _ hdata) s.selfCheckRun

end Setup

private theorem length_lines_le (text : List Char) : (History.lines text).length ≤ text.length + 1 :=
  calc (History.lines text).length
      ≤ (Text.splitOn ['\n'] (Text.unifyLines text)).length := List.length_filter_le _ _
    _ ≤ (Text.unifyLines text).length + 1 := Text.length_splitFrom_le _ 0 [] _
    _ ≤ text.length + 1 := Nat.succ_le_succ (Text.length_unifyLines_le text)

private theorem countBenches_le (atStart : Bool) (text : List Char) : countBenches atStart text ≤ text.length := by
  induction text generalizing atStart with
  | nil => exact Nat.le_refl 0
  | cons c text ih =>
    have hrest := ih (c == '\n')
    rw [countBenches, List.length_cons]
    split <;> omega

private theorem benchCount_le (source : Option (List Char)) : benchCount source ≤ (source.getD []).length := by
  cases source with
  | none => exact Nat.le_refl 0
  | some text => exact Nat.le_trans (countBenches_le true _) (Text.length_unifyLines_le text)

private theorem isReadable_int {k : ℤ} (h : IsShort k.natAbs) : Json.isReadable (.int k) = true := by
  rw [Json.isReadable, decide_eq_true_eq]
  exact h

private theorem le_of_belowCount? {t : RepoTime} {k : ℕ} (h : t.belowCount? = some k) : k ≤ t.shares.length := by
  unfold RepoTime.belowCount? at h
  split at h
  next => cases h
  next =>
    cases h
    calc t.belowCount ≤ t.valid.length := List.length_filter_le _ _
      _ ≤ (t.shares.map (·.2)).length := List.length_filter_le _ _
      _ = t.shares.length := List.length_map _

/-- The record of a round can be read back. -/
theorem isReadable_toValue {s : Setup} {r : Round} (hround : s.IsRoundOf r) (hmodest : s.IsModest) (htimed : s.IsTimed)
    {wall : Value} (hwall : Json.isReadable wall = true) : Json.isReadable (r.toValue wall) = true := by
  obtain ⟨⟨started, hstarted⟩, ⟨ended, hended⟩, now, hnow⟩ := htimed
  obtain ⟨text, data, htext, hdata, hcoverage⟩ := hround.coverage
  simp only [Setup.IsModest, Setup.texts, List.forall_mem_cons] at hmodest
  obtain ⟨hcoverageText, hbenches, hcheckpoints, hrepoTime, hchecked, -⟩ := hmodest
  rw [htext, Option.getD_some] at hcoverageText
  obtain ⟨hcovered, hstatements, herrors⟩ := Coverage.ofValue_counts (Json.all_fits_of_read hdata) hcoverage
  have hduration : r.duration = .float (ended.sub started) := by
    have h := hround.duration
    rw [hstarted, hended] at h
    exact (Except.ok.inj h).symm
  unfold Round.toValue
  rw [Json.isReadable, Json.areReadableIn_iff]
  simp only [List.forall_mem_cons]
  refine ⟨isReadable_int ?_, ?_, hwall, rfl, isReadable_int hcovered, isReadable_int hstatements, isReadable_int ?_,
    isReadable_int ?_, ?_, Json.isReadable_record_map _ (fun _ => rfl) _, ?_,
    Json.isReadable_record_map _ (fun _ => rfl) _, isReadable_int ?_, fun _ h => absurd h List.not_mem_nil⟩
  · rw [hround.number, Int.natAbs_natCast]
    exact hcheckpoints.mono (Nat.succ_le_succ (length_lines_le _))
  · rw [hround.time, hnow]
    rfl
  · rw [hround.benches, Int.natAbs_natCast]
    exact hbenches.mono (Nat.le_add_right_of_le (benchCount_le _))
  · rw [Int.natAbs_natCast]
    exact hcoverageText.mono (Nat.le_add_right_of_le herrors)
  · rw [hduration]
    rfl
  · rw [hround.repoTime]
    cases hcount : s.repoTime.belowCount? with
    | none => rfl
    | some k =>
      refine isReadable_int (hrepoTime.mono ?_)
      exact Nat.le_add_right_of_le ((le_of_belowCount? hcount).trans s.length_shares_le)
  · rw [hround.checked, Int.natAbs_natCast]
    refine hchecked.mono (Nat.le_add_right_of_le ?_)
    exact (List.length_filter_le _ _).trans s.length_checked_le

end Measure

end Docsmith
