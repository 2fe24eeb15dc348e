import Docsmith.Proofs.Battle.Turn

/-!
# A notebook with shared lists

In a notebook each list has a label, and a list that is changed in place changes wherever its label stands.  The lists
of all investments are dealt out to several creatures at once, so the same label stands in several places; a list that
is written for one place has a label of its own.  `Tidy` says that this is all the sharing there is, and `Guarded` that
the hit points of a creature have a list of their own when one of its defences has nothing in it, for then entries are
added to both in place.
-/

namespace Docsmith

namespace Fields

variable {α β : Type}

/-- The same names with other values. -/
def mapValues (g : α → β) (fs : Fields α) : Fields β := fs.map fun f => (f.1, g f.2)

private theorem get?_mapValues (g : α → β) (name : String) (fs : Fields α) :
    (fs.mapValues g).get? name = (fs.get? name).map g := by
  induction fs with
  | nil => rfl
  | cons f fs ih =>
    obtain ⟨k, v⟩ := f
    simp only [mapValues, List.map_cons, get?] at ih ⊢
    split
    · rfl
    · exact ih

private theorem mapValues_put (g : α → β) (name : String) (v : α) (fs : Fields α) :
    (fs.put name v).mapValues g = (fs.mapValues g).put name (g v) := by
  induction fs with
  | nil => rfl
  | cons f fs ih =>
    obtain ⟨k, w⟩ := f
    simp only [mapValues, List.map_cons, put] at ih ⊢
    split
    · rfl
    · rw [List.map_cons, ih]

/-- The weight of all values. -/
def total (w : α → Nat) : Fields α → Nat
  | [] => 0
  | (_, v) :: fs => w v + total w fs

/-- A value that is stored takes the place of the one under its name. -/
private theorem total_put (w : α → Nat) (name : String) (v : α) (fs : Fields α) :
    total w (fs.put name v) + ((fs.get? name).map w).getD 0 = total w fs + w v := by
  induction fs with
  | nil => simp [put, get?, total]
  | cons f fs ih =>
    obtain ⟨k, u⟩ := f
    by_cases hk : k = name
    · simp only [put, get?, hk, if_true, total, Option.map_some, Option.getD_some]
      omega
    · simp only [put, get?, hk, if_false, total]
      omega

private theorem weight_le_total {w : α → Nat} {name : String} {v : α} {fs : Fields α} (h : fs.get? name = some v) :
    w v ≤ total w fs := by
  induction fs with
  | nil => cases h
  | cons f fs ih =>
    obtain ⟨k, u⟩ := f
    simp only [get?] at h
    rw [total]
    split at h
    · cases h
      omega
    · have := ih h
      omega

section

variable {w : α → Nat} {g : α → α}

private theorem mapValues_of_total_eq_zero (hg : ∀ a, w a = 0 → g a = a) {fs : Fields α} (h : total w fs = 0) :
    fs.mapValues g = fs := by
  induction fs with
  | nil => rfl
  | cons f fs ih =>
    obtain ⟨k, u⟩ := f
    rw [total] at h
    have htail := ih (by omega)
    unfold mapValues at htail ⊢
    rw [List.map_cons, htail, hg u (by omega)]

/-- If one value alone has weight, a function that moves no others changes nothing but that value. -/
private theorem mapValues_eq_put (hg : ∀ a, w a = 0 → g a = a) {name : String} {v : α} {fs : Fields α}
    (hget : fs.get? name = some v) (hv : 0 < w v) (h : total w fs ≤ 1) : fs.mapValues g = fs.put name (g v) := by
  induction fs with
  | nil => cases hget
  | cons f fs ih =>
    obtain ⟨k, u⟩ := f
    simp only [get?] at hget
    rw [total] at h
    split at hget
    next hk =>
      cases hget
      have htail := mapValues_of_total_eq_zero hg (show total w fs = 0 by omega)
      unfold mapValues at htail ⊢
      simp only [List.map_cons, htail, put, hk, if_true]
    next hk =>
      have hweight := weight_le_total (w := w) hget
      have htail := ih hget (by omega)
      unfold mapValues at htail ⊢
      simp only [List.map_cons, htail, put, hk, if_false, hg u (by omega)]

end

end Fields

namespace Battle

/-- Where a list was made: dealt out under a stat together with others, or written for one place. -/
inductive Label where
  | dealt (number : Nat) (stat : String)
  | written (number : Nat)
  deriving DecidableEq

/-- A list and its label. -/
structure Sheet where
  label : Label
  values : List Value

namespace Sheet

/-- The sheet with other values, if it has the label. -/
def rewrite (label : Label) (vs : List Value) (s : Sheet) : Sheet :=
  if s.label = label then { s with values := vs } else s

/-- How often the label stands on the sheet. -/
def weight (label : Label) (s : Sheet) : Nat := if s.label = label then 1 else 0

private theorem rewrite_of_weight {label : Label} (vs : List Value) (s : Sheet) (h : s.weight label = 0) :
    s.rewrite label vs = s := by
  unfold weight at h
  unfold rewrite
  split at h
  · cases h
  · next hne => rw [if_neg hne]

end Sheet

/-- What a player knows, in lists with labels. -/
structure Notebook where
  mine : Value
  theirs : Value
  moves : Fields (List Value)
  investment : Fields (Fields Sheet)
  /-- The number of the next label. -/
  next : Nat

namespace Notebook

/-- A notebook that knows nothing. -/
def start : Notebook := ⟨.record [], .record [], [], [], 0⟩

/-- What a notebook says, without the labels. -/
def view (n : Notebook) : Tracker :=
  ⟨n.mine, n.theirs, n.moves, n.investment.mapValues fun sheets => sheets.mapValues Sheet.values⟩

/-- The sheets of a creature. -/
def sheets (n : Notebook) (p : String) : Fields Sheet := (n.investment.get? p).getD []

/-- Puts a sheet under a stat of a creature. -/
def write (p stat : String) (sheet : Sheet) (n : Notebook) : Notebook :=
  { n with investment := n.investment.put p ((n.sheets p).put stat sheet) }

/-- Puts a new list under a stat of a creature. -/
def assign (p stat : String) (vs : List Value) (n : Notebook) : Notebook :=
  { n.write p stat ⟨.written n.next, vs⟩ with next := n.next + 1 }

/-- Changes the list under a stat of a creature, wherever else it stands. -/
def overwrite (p stat : String) (vs : List Value) (n : Notebook) : Notebook :=
  match (n.sheets p).get? stat with
  | some sheet =>
    { n with investment := n.investment.mapValues fun sheets => sheets.mapValues (Sheet.rewrite sheet.label vs) }
  | none => n

/-- The sheets that are dealt out. -/
def dealt (number : Nat) : Fields Sheet := Tracker.openKnowledge.map fun f => (f.1, ⟨.dealt number f.1, f.2⟩)

/-- The lists of a notebook may stand in several places. -/
instance store : Store Notebook where
  view := view
  start := start
  place mine theirs n := { n with mine := mine, theirs := theirs }
  setMoves moves n := { n with moves := moves }
  room p n := { n with investment := n.investment.put p [] }
  assign := assign
  overwrite := overwrite
  Lists := Nat
  prepare n := (n.next, { n with next := n.next + 1 })
  openWith number p n := { n with investment := n.investment.put p (dealt number) }

variable {n : Notebook} {p q stat : String}

/-! ### What a notebook says -/

theorem get?_investment_view (n : Notebook) (p : String) :
    n.view.investment.get? p = (n.investment.get? p).map fun sheets => sheets.mapValues Sheet.values :=
  Fields.get?_mapValues _ p n.investment

private theorem knowledge_view (n : Notebook) (p : String) :
    n.view.knowledge p = (n.sheets p).mapValues Sheet.values := by
  unfold Tracker.knowledge sheets
  rw [get?_investment_view]
  cases n.investment.get? p <;> rfl

theorem get?_view (n : Notebook) (p stat : String) :
    (n.view.knowledge p).get? stat = ((n.sheets p).get? stat).map Sheet.values := by
  rw [knowledge_view, Fields.get?_mapValues]

theorem has_view (n : Notebook) (p : String) : n.view.investment.has p = n.investment.has p := by
  rw [Fields.has, get?_investment_view, Option.isSome_map, Fields.has]

private theorem view_write (p stat : String) (sheet : Sheet) (n : Notebook) :
    (n.write p stat sheet).view = n.view.withStat p stat sheet.values := by
  unfold Tracker.withStat
  rw [knowledge_view, ← Fields.mapValues_put]
  simp only [view, write, Fields.mapValues_put]

theorem view_assign (p stat : String) (vs : List Value) (n : Notebook) :
    (n.assign p stat vs).view = n.view.withStat p stat vs := view_write p stat _ n

theorem view_put (p : String) (sheets : Fields Sheet) (n : Notebook) :
    { n with investment := n.investment.put p sheets }.view =
      { n.view with investment := n.view.investment.put p (sheets.mapValues Sheet.values) } := by
  simp only [view, Fields.mapValues_put]

theorem sheets_put (p q : String) (e : Fields Sheet) (n : Notebook) :
    { n with investment := n.investment.put p e }.sheets q = if q = p then e else n.sheets q := by
  unfold sheets
  rw [Fields.get?_put]
  split <;> rfl

private theorem get?_write (p stat q s : String) (sheet : Sheet) (n : Notebook) :
    ((n.write p stat sheet).sheets q).get? s = if q = p ∧ s = stat then some sheet else (n.sheets q).get? s := by
  rw [write, sheets_put]
  by_cases hq : q = p
  · subst hq
    simp [Fields.get?_put]
  · simp [hq]

/-! ### How often a label stands -/

/-- In how many places a label stands. -/
def uses (label : Label) (n : Notebook) : Nat := n.investment.total fun sheets => sheets.total (Sheet.weight label)

private theorem uses_put (label : Label) (p : String) (e : Fields Sheet) (n : Notebook) :
    { n with investment := n.investment.put p e }.uses label + (n.sheets p).total (Sheet.weight label) =
      n.uses label + e.total (Sheet.weight label) := by
  have hput := Fields.total_put (fun sheets => Fields.total (Sheet.weight label) sheets) p e n.investment
  unfold uses sheets
  rw [← hput]
  cases n.investment.get? p <;> rfl

private theorem uses_write (label : Label) (p stat : String) (sheet : Sheet) (n : Notebook) :
    (n.write p stat sheet).uses label + (((n.sheets p).get? stat).map (Sheet.weight label)).getD 0 =
      n.uses label + sheet.weight label := by
  have hput := uses_put label p ((n.sheets p).put stat sheet) n
  have hstat := Fields.total_put (Sheet.weight label) stat sheet (n.sheets p)
  rw [write]
  omega

private theorem exists_sheets {sheet : Sheet} (h : (n.sheets p).get? stat = some sheet) :
    ∃ e, n.investment.get? p = some e ∧ e.get? stat = some sheet := by
  unfold sheets at h
  cases hentry : n.investment.get? p with
  | none =>
    rw [hentry] at h
    cases h
  | some e =>
    rw [hentry] at h
    exact ⟨e, rfl, h⟩

private theorem one_le_uses {sheet : Sheet} (h : (n.sheets p).get? stat = some sheet) : 1 ≤ n.uses sheet.label := by
  obtain ⟨e, hentry, hsheet⟩ := exists_sheets h
  have hweight : sheet.weight sheet.label = 1 := by simp [Sheet.weight]
  calc 1 = sheet.weight sheet.label := hweight.symm
    _ ≤ e.total (Sheet.weight sheet.label) := Fields.weight_le_total hsheet
    _ ≤ n.uses sheet.label := Fields.weight_le_total (w := fun e => Fields.total (Sheet.weight sheet.label) e) hentry

/-- A list whose label stands nowhere else is changed in its place alone. -/
private theorem overwrite_eq_write {sheet : Sheet} (h : (n.sheets p).get? stat = some sheet)
    (hone : n.uses sheet.label ≤ 1)
    (vs : List Value) : n.overwrite p stat vs = n.write p stat { sheet with values := vs } := by
  obtain ⟨e, hentry, hsheet⟩ := exists_sheets h
  have hweight : sheet.weight sheet.label = 1 := by simp [Sheet.weight]
  have hrewrite : sheet.rewrite sheet.label vs = { sheet with values := vs } := by simp [Sheet.rewrite]
  have hmove : ∀ s : Sheet, s.weight sheet.label = 0 → s.rewrite sheet.label vs = s :=
    fun s => s.rewrite_of_weight vs
  have htotal := Fields.weight_le_total (w := Sheet.weight sheet.label) hsheet
  have huses := Fields.weight_le_total (w := fun e => Fields.total (Sheet.weight sheet.label) e) hentry
  -- the label is moved once among the creatures, and once among the stats of the creature
  have hinner := Fields.mapValues_eq_put hmove hsheet (by omega) (by unfold uses at hone; omega)
  have houter := Fields.mapValues_eq_put (w := fun e => Fields.total (Sheet.weight sheet.label) e)
    (fun e he => Fields.mapValues_of_total_eq_zero hmove he) hentry (by omega) hone
  have hsheets : n.sheets p = e := by rw [sheets, hentry, Option.getD_some]
  rw [hinner, hrewrite] at houter
  simp only [overwrite, write, hsheets, hsheet, houter]

/-! ### Tidy notebooks -/

/-- If there is a list under a stat of a creature, it was written for that place. -/
def Own (n : Notebook) (p stat : String) : Prop :=
  ∀ sheet, (n.sheets p).get? stat = some sheet → ∃ number, sheet.label = .written number

/-- A list that was written for one place stands there alone, a list that was dealt out has something in it, and no
range of the speed was dealt out. -/
structure Tidy (n : Notebook) : Prop where
  unused : ∀ number, n.next ≤ number → n.uses (.written number) = 0
  once : ∀ number, n.uses (.written number) ≤ 1
  filled : ∀ p stat, n.view.possible p stat = [] → n.Own p stat
  speed : ∀ p, n.Own p "spe"

/-- When there is nothing in a defence of a creature, its hit points have a list of their own. -/
def Guarded (n : Notebook) (p : String) : Prop :=
  ∀ physical, n.view.possible p (defenceName physical) = [] → n.Own p "hp"

theorem possible_view (n : Notebook) (p stat : String) :
    n.view.possible p stat = (((n.sheets p).get? stat).map Sheet.values).getD [] := by
  rw [Tracker.possible, get?_view]

private theorem possible_write (p stat q s : String) (sheet : Sheet) (n : Notebook) :
    (n.write p stat sheet).view.possible q s = if q = p ∧ s = stat then sheet.values else n.view.possible q s := by
  rw [possible_view, possible_view, get?_write]
  split <;> rfl

theorem own_write_self (p stat : String) (number : Nat) (vs : List Value) (n : Notebook) :
    (n.write p stat ⟨.written number, vs⟩).Own p stat := by
  intro sheet hget
  rw [get?_write, if_pos ⟨rfl, rfl⟩] at hget
  cases hget
  exact ⟨number, rfl⟩

theorem Own.write {s : String} (h : n.Own q s) (p stat : String) (number : Nat) (vs : List Value) :
    (n.write p stat ⟨.written number, vs⟩).Own q s := by
  by_cases hplace : q = p ∧ s = stat
  · obtain ⟨rfl, rfl⟩ := hplace
    exact own_write_self q s number vs n
  · intro sheet hget
    rw [get?_write, if_neg hplace] at hget
    exact h sheet hget

private theorem Tidy.write (h : n.Tidy) {number next : Nat} {vs : List Value} (hnext : n.next ≤ next)
    (hnumber : number < next) (hone : (n.write p stat ⟨.written number, vs⟩).uses (.written number) ≤ 1) :
    { n.write p stat ⟨.written number, vs⟩ with next := next }.Tidy := by
  have huses : ∀ k, k ≠ number → (n.write p stat ⟨.written number, vs⟩).uses (.written k) ≤ n.uses (.written k) := by
    intro k hk
    have hwrite := uses_write (.written k) p stat ⟨.written number, vs⟩ n
    have hweight : Sheet.weight (.written k) ⟨.written number, vs⟩ = 0 := by simp [Sheet.weight, hk.symm]
    omega
  refine ⟨fun k hk => ?_, fun k => ?_, fun q s hempty => ?_, fun q => (h.speed q).write p stat number vs⟩
  · have hunused := h.unused k (Nat.le_trans hnext hk)
    have hle := huses k (by simp only at hk; omega)
    exact Nat.eq_zero_of_le_zero (hunused ▸ hle)
  · by_cases hk : k = number
    · subst hk
      exact hone
    · exact Nat.le_trans (huses k hk) (h.once k)
  · by_cases hplace : q = p ∧ s = stat
    · obtain ⟨rfl, rfl⟩ := hplace
      exact own_write_self q s number vs n
    · have hbefore : n.view.possible q s = [] := by
        rw [← hempty]
        exact (possible_write p stat q s ⟨.written number, vs⟩ n ▸ if_neg hplace).symm
      exact (h.filled q s hbefore).write p stat number vs

private theorem Tidy.assign (h : n.Tidy) (p stat : String) (vs : List Value) : (n.assign p stat vs).Tidy := by
  refine h.write (Nat.le_succ _) (Nat.lt_succ_self _) ?_
  have hwrite := uses_write (.written n.next) p stat ⟨.written n.next, vs⟩ n
  have hweight : Sheet.weight (.written n.next) ⟨.written n.next, vs⟩ = 1 := by simp [Sheet.weight]
  have hunused := h.unused n.next (Nat.le_refl _)
  omega

/-- A list that was written for its place is changed there alone. -/
private theorem Tidy.overwrite (h : n.Tidy) (hown : n.Own p stat) {us : List Value}
    (hget : ((n.sheets p).get? stat).map Sheet.values = some us) (vs : List Value) :
    ∃ number, n.overwrite p stat vs = n.write p stat ⟨.written number, vs⟩ ∧ (n.overwrite p stat vs).Tidy := by
  obtain ⟨⟨label, us'⟩, hsheet, -⟩ := Option.map_eq_some_iff.1 hget
  obtain ⟨number, rfl⟩ := hown _ hsheet
  have hpos := one_le_uses hsheet
  have honce := h.once number
  have heq := overwrite_eq_write hsheet honce vs
  refine ⟨number, heq, ?_⟩
  have hnumber : number < n.next := by
    apply Nat.lt_of_not_le
    intro hle
    have hunused := h.unused number hle
    simp only at hpos
    omega
  have hwrite := uses_write (.written number) p stat ⟨.written number, vs⟩ n
  rw [hsheet] at hwrite
  simp only [Option.map_some, Option.getD_some, Sheet.weight, if_true] at hwrite
  rw [heq]
  exact h.write (Nat.le_refl _) hnumber (by omega)

theorem tidy_start : start.Tidy where
  unused _ _ := rfl
  once _ := Nat.zero_le 1
  filled p stat _ := fun _ h => by cases h
  speed p := fun _ h => by cases h

/-- Tidiness does not depend on the positions and the moves, nor on entries without sheets. -/
private theorem Tidy.congr {m : Notebook} (h : n.Tidy) (hsheets : ∀ p, m.sheets p = n.sheets p)
    (huses : ∀ label, m.uses label = n.uses label) (hnext : n.next ≤ m.next) : m.Tidy := by
  have hown : ∀ p stat, n.Own p stat → m.Own p stat := by
    intro p stat hown sheet hget
    rw [hsheets] at hget
    exact hown sheet hget
  refine ⟨fun k hk => ?_, fun k => ?_, fun p stat hempty => ?_, fun p => hown p "spe" (h.speed p)⟩
  · rw [huses]
    exact h.unused k (Nat.le_trans hnext hk)
  · rw [huses]
    exact h.once k
  · rw [possible_view, hsheets, ← possible_view] at hempty
    exact hown p stat (h.filled p stat hempty)

theorem Guarded.congr {m : Notebook} (h : n.Guarded p) (hsheets : m.sheets p = n.sheets p) : m.Guarded p := by
  intro physical hempty sheet hget
  rw [possible_view, hsheets, ← possible_view] at hempty
  rw [hsheets] at hget
  exact h physical hempty sheet hget

private theorem sheets_room (h : n.investment.has p = false) (q : String) :
    { n with investment := n.investment.put p [] }.sheets q = n.sheets q := by
  rw [sheets_put]
  split
  next hq =>
    subst hq
    rw [Fields.has, Option.isSome_eq_false_iff, Option.isNone_iff_eq_none] at h
    rw [sheets, h, Option.getD_none]
  next => rfl

/-- Dealing out lists leaves a notebook tidy. -/
private theorem Tidy.deal (h : n.Tidy) (p : String) (number : Nat) :
    { n with investment := n.investment.put p (dealt number) }.Tidy := by
  have huses : ∀ k,
      { n with investment := n.investment.put p (dealt number) }.uses (.written k) ≤ n.uses (.written k) := by
    intro k
    have hput := uses_put (.written k) p (dealt number) n
    have hdealt : (dealt number).total (Sheet.weight (.written k)) = 0 := rfl
    omega
  have hfilled : ∀ f ∈ dealt number, f.2.values ≠ [] := by
    simp [dealt, Tracker.openKnowledge, Investment.allPoints, Investment.all, Investment.ways]
  refine ⟨fun k hk => ?_, fun k => Nat.le_trans (huses k) (h.once k), fun q stat hempty sheet hget => ?_, fun q => ?_⟩
  · have hunused := h.unused k hk
    exact Nat.eq_zero_of_le_zero (hunused ▸ huses k)
  · rw [possible_view, hget] at hempty
    rw [sheets_put] at hget
    split at hget
    next => exact absurd hempty (hfilled _ (Fields.mem_of_get? hget))
    next hq =>
      refine h.filled q stat ?_ sheet hget
      rw [possible_view, hget]
      exact hempty
  · intro sheet hget
    rw [sheets_put] at hget
    split at hget
    next => cases hget
    next => exact h.speed q sheet hget

private theorem guarded_deal (h : ∀ q, n.Guarded q) (p : String) (number : Nat) (q : String) :
    { n with investment := n.investment.put p (dealt number) }.Guarded q := by
  by_cases hq : q = p
  · intro physical hempty
    rw [possible_view, sheets_put, if_pos hq] at hempty
    cases physical <;> cases hempty
  · refine (h q).congr ?_
    rw [sheets_put, if_neg hq]

/-! ### What is kept -/

/-- A tidy notebook in which the entries of some creatures are still those of another. -/
structure Keeping (K : String → Prop) (old n : Notebook) : Prop where
  tidy : n.Tidy
  kept : ∀ q, K q → n.investment.get? q = old.investment.get? q

/-- Besides, nothing that was dealt out will be added to. -/
structure Steady (K : String → Prop) (old n : Notebook) : Prop extends Keeping K old n where
  guarded : ∀ p, n.Guarded p

variable {K : String → Prop} {old : Notebook}

private theorem kept_put (h : Keeping K old n) (hp : ¬K p) (e : Fields Sheet) (q : String) (hq : K q) :
    (n.investment.put p e).get? q = old.investment.get? q := by
  rw [Fields.get?_put_of_ne, h.kept q hq]
  rintro rfl
  exact hp hq

theorem Keeping.assign (h : Keeping K old n) (hp : ¬K p) (stat : String) (vs : List Value) :
    Keeping K old (n.assign p stat vs) :=
  ⟨h.tidy.assign p stat vs, kept_put h hp _⟩

/-- A creature whose hit points have a list of their own is guarded. -/
theorem guarded_write {number : Nat} {vs : List Value} (h : ∀ q, q ≠ p → n.Guarded q)
    (hown : n.Own p "hp" ∨ stat = "hp") (q : String) : (n.write p stat ⟨.written number, vs⟩).Guarded q := by
  by_cases hq : q = p
  · subst hq
    intro physical _
    rcases hown with hown | rfl
    · exact hown.write q stat number vs
    · exact own_write_self q "hp" number vs n
  · refine (h q hq).congr ?_
    rw [write, sheets_put, if_neg hq]

/-- What is not known of a defence does not matter. -/
private theorem guarded_write_of_ne {number : Nat} {vs : List Value} (h : ∀ q, n.Guarded q)
    (hstat : ∀ physical, stat ≠ defenceName physical) (q : String) :
    (n.write p stat ⟨.written number, vs⟩).Guarded q := by
  intro physical hempty
  rw [possible_write, if_neg fun hplace => hstat physical hplace.2.symm] at hempty
  exact (h q physical hempty).write p stat number vs

theorem Steady.assign (h : Steady K old n) (hp : ¬K p) (vs : List Value)
    (hstat : n.Own p "hp" ∨ ∀ physical, stat ≠ defenceName physical) : Steady K old (n.assign p stat vs) := by
  refine ⟨h.toKeeping.assign hp stat vs, ?_⟩
  rcases hstat with hown | hstat
  · exact guarded_write (fun q _ => h.guarded q) (.inl hown)
  · exact guarded_write_of_ne h.guarded hstat

theorem Steady.overwrite (h : Steady K old n) (hp : ¬K p) (hown : n.Own p stat) {us : List Value}
    (hget : ((n.sheets p).get? stat).map Sheet.values = some us) (vs : List Value)
    (hstat : n.Own p "hp" ∨ ∀ physical, stat ≠ defenceName physical) :
    (n.overwrite p stat vs).view = n.view.withStat p stat vs ∧ Steady K old (n.overwrite p stat vs) ∧
      ∀ s, n.Own p s → (n.overwrite p stat vs).Own p s := by
  obtain ⟨number, heq, htidy⟩ := h.tidy.overwrite hown hget vs
  rw [heq] at htidy ⊢
  refine ⟨view_write p stat _ n, ⟨⟨htidy, kept_put h.toKeeping hp _⟩, ?_⟩, fun s hs => hs.write p stat number vs⟩
  rcases hstat with hpoints | hstat
  · exact guarded_write (fun q _ => h.guarded q) (.inl hpoints)
  · exact guarded_write_of_ne h.guarded hstat

theorem Steady.room (h : Steady K old n) (hp : ¬K p) (hhas : n.investment.has p = false) :
    Steady K old { n with investment := n.investment.put p [] } := by
  have hsheets := sheets_room hhas
  have huses : ∀ label, { n with investment := n.investment.put p [] }.uses label = n.uses label := by
    intro label
    have hput := uses_put label p [] n
    have hempty : n.sheets p = [] := by
      rw [← hsheets p, sheets_put, if_pos rfl]
    rw [hempty] at hput
    exact hput
  have htidy := h.tidy.congr hsheets huses (Nat.le_refl _)
  exact ⟨⟨htidy, kept_put h.toKeeping hp _⟩, fun q => (h.guarded q).congr (hsheets q)⟩

theorem Steady.deal (h : Steady K old n) (hp : ¬K p) (number : Nat) :
    Steady K old { n with investment := n.investment.put p (dealt number) } :=
  ⟨⟨h.tidy.deal p number, kept_put h.toKeeping hp _⟩, guarded_deal h.guarded p number⟩

/-- The positions, the moves and the number of the next label do not matter. -/
theorem Steady.congr {m : Notebook} (h : Steady K old n) (hinvestment : m.investment = n.investment)
    (hnext : n.next ≤ m.next) : Steady K old m := by
  have hsheets : ∀ p, m.sheets p = n.sheets p := fun p => by rw [sheets, hinvestment, sheets]
  have huses : ∀ label, m.uses label = n.uses label := fun label => by rw [uses, hinvestment, uses]
  refine ⟨⟨h.tidy.congr hsheets huses hnext, ?_⟩, fun p => (h.guarded p).congr (hsheets p)⟩
  rw [hinvestment]
  exact h.kept

theorem guarded_start (p : String) : start.Guarded p := fun _ _ _ h => by cases h

/-- What is kept can be chosen anew. -/
theorem Steady.renew {K' : String → Prop} (h : Steady K old n) : Steady K' n n :=
  ⟨⟨h.tidy, fun _ _ => rfl⟩, h.guarded⟩

end Notebook

end Battle

end Docsmith
