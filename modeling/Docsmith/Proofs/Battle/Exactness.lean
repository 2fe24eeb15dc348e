import Docsmith.Proofs.Battle.Truth

/-!
# Exact inference

After everything was taken for possible the inference is exact: as long as some investment explains all strikes on a
creature, what is known of its defences and hit points is what each of the strikes allows, no more and no less
(`possible_iff_allowed`).  The lists are the intersection of what the strikes allow, so the order of the strikes does
not matter; that all investments come back when a list is empty never happens in such a run.
-/

namespace Docsmith.Battle

/-- Every strike that meets the defence allows an investment in it, with or without effort in the hit points. -/
def AllowsWay (rules : Rules) (seen : List Strike) (physical : Bool) (way : Bool × Bool) : Prop :=
  ∀ x ∈ seen, x.isPhysical = physical → ∃ full, (way.1, way.2, full) ∈ x.defences rules

/-- Every strike allows an investment in the hit points, with some investment in the defence that it meets. -/
def AllowsPoints (rules : Rules) (seen : List Strike) (full : Bool) : Prop :=
  ∀ x ∈ seen, ∃ way : Bool × Bool, (way.1, way.2, full) ∈ x.defences rules

/-- One investment in each defence and in the hit points explains every strike. -/
def Consistent (rules : Rules) (seen : List Strike) : Prop :=
  ∃ (way : Bool → Bool × Bool) (full : Bool),
    ∀ x ∈ seen, ((way x.isPhysical).1, (way x.isPhysical).2, full) ∈ x.defences rules

/-- What is known of a creature's defences and hit points is what the strikes allow. -/
structure Exact (rules : Rules) (p : String) (seen : List Strike) (t : Tracker) : Prop where
  defence : ∀ physical v, v ∈ t.possible p (defenceName physical) ↔
    ∃ way, v = Investment.ofWay way ∧ AllowsWay rules seen physical way
  points : ∀ v, v ∈ t.possible p "hp" ↔ ∃ full, v = Investment.ofPoints full ∧ AllowsPoints rules seen full

variable {rules : Rules} {p : String} {seen : List Strike} {x : Strike} {t t' : Tracker}

private theorem allowsWay_append {physical : Bool} {way : Bool × Bool} :
    AllowsWay rules (seen ++ [x]) physical way ↔ AllowsWay rules seen physical way ∧
      (x.isPhysical = physical → ∃ full, (way.1, way.2, full) ∈ x.defences rules) := by
  unfold AllowsWay
  simp [or_imp, forall_and]

private theorem allowsPoints_append {full : Bool} :
    AllowsPoints rules (seen ++ [x]) full ↔
      AllowsPoints rules seen full ∧ ∃ way : Bool × Bool, (way.1, way.2, full) ∈ x.defences rules := by
  unfold AllowsPoints
  simp [or_imp, forall_and]

private theorem Consistent.left {more : List Strike} (h : Consistent rules (seen ++ more)) : Consistent rules seen := by
  obtain ⟨way, full, hall⟩ := h
  exact ⟨way, full, fun y hy => hall y (List.mem_append_left _ hy)⟩

private theorem Consistent.allowsWay {way : Bool → Bool × Bool} {full : Bool}
    (h : ∀ x ∈ seen, ((way x.isPhysical).1, (way x.isPhysical).2, full) ∈ x.defences rules) (physical : Bool) :
    AllowsWay rules seen physical (way physical) := by
  rintro x hx rfl
  exact ⟨full, h x hx⟩

private theorem Consistent.allowsPoints {way : Bool → Bool × Bool} {full : Bool}
    (h : ∀ x ∈ seen, ((way x.isPhysical).1, (way x.isPhysical).2, full) ∈ x.defences rules) :
    AllowsPoints rules seen full :=
  fun x hx => ⟨way x.isPhysical, h x hx⟩

/-- Entries that were known and are found again, as long as there is one. -/
private theorem mem_orAll_kept {α : Type} {entry : α → Value} (hsame : ∀ a b, (entry a).same (entry b) = true ↔ a = b)
    {before found all : List Value} {A B : α → Prop} (hbefore : ∀ v, v ∈ before ↔ ∃ a, v = entry a ∧ A a)
    (hfound : ∀ v, v ∈ found ↔ ∃ a, v = entry a ∧ B a) {c : α} (hA : A c) (hB : B c) (v : Value) :
    v ∈ Tracker.orAll (Tracker.kept before found) all ↔ ∃ a, v = entry a ∧ A a ∧ B a := by
  have hc : entry c ∈ Tracker.kept before found :=
    Tracker.mem_kept ((hsame c c).2 rfl) ((hbefore _).2 ⟨c, rfl, hA⟩) ((hfound _).2 ⟨c, rfl, hB⟩)
  rw [Tracker.orAll_of_mem hc, Tracker.kept, List.mem_filter, List.any_eq_true, hfound]
  constructor
  · rintro ⟨⟨a, rfl, hBa⟩, u, hu, husame⟩
    obtain ⟨b, rfl, hAb⟩ := (hbefore u).1 hu
    obtain rfl := (hsame b a).1 husame
    exact ⟨b, rfl, hAb, hBa⟩
  · rintro ⟨a, rfl, hAa, hBa⟩
    exact ⟨⟨a, rfl, hBa⟩, entry a, (hbefore _).2 ⟨a, rfl, hAa⟩, (hsame a a).2 rfl⟩

private theorem Exact.congr (h : Exact rules p seen t)
    (hsame : ∀ stat ∈ ["def", "spd", "hp"], (t'.knowledge p).get? stat = (t.knowledge p).get? stat) :
    Exact rules p seen t' := by
  have hpossible : ∀ stat ∈ ["def", "spd", "hp"], t'.possible p stat = t.possible p stat := by
    intro stat hstat
    rw [Tracker.possible, Tracker.possible, hsame stat hstat]
  refine ⟨fun physical v => ?_, fun v => ?_⟩
  · rw [hpossible _ (by cases physical <;> simp [defenceName])]
    exact h.defence physical v
  · rw [hpossible _ (by simp)]
    exact h.points v

/-- A strike on the creature cuts the lists down to what it allows. -/
private theorem Exact.defenceStep (h : Exact rules p seen t) (hc : Consistent rules (seen ++ [x]))
    (hstep : Tracker.DefenceStep p x.defenceStat (x.defences rules) t t') : Exact rules p (seen ++ [x]) t' := by
  obtain ⟨way, full, hall⟩ := hc
  have hseen : ∀ y ∈ seen, ((way y.isPhysical).1, (way y.isPhysical).2, full) ∈ y.defences rules :=
    fun y hy => hall y (by simp [hy])
  have hx := hall x (by simp)
  -- something was known before, because the explaining investment was
  have hknown : t.possible p x.defenceStat ≠ [] := by
    intro hnil
    have hmem := (h.defence x.isPhysical _).2 ⟨_, rfl, Consistent.allowsWay hseen _⟩
    rw [← Strike.defenceStat, hnil] at hmem
    cases hmem
  obtain ⟨hstat, hpoints⟩ := hstep.again hknown
  refine ⟨fun physical v => ?_, fun v => ?_⟩
  · simp only [allowsWay_append]
    by_cases hphysical : x.isPhysical = physical
    · subst hphysical
      rw [← Strike.defenceStat, Tracker.possible, hstat, Option.getD_some]
      have hfound : ∀ v, v ∈ (x.defences rules).map (fun w => Investment.ofWay (w.1, w.2.1)) ↔
          ∃ way, v = Investment.ofWay way ∧ ∃ full, (way.1, way.2, full) ∈ x.defences rules := by
        intro v
        rw [List.mem_map]
        constructor
        · rintro ⟨w, hw, rfl⟩
          exact ⟨(w.1, w.2.1), rfl, w.2.2, hw⟩
        · rintro ⟨w, rfl, f, hw⟩
          exact ⟨(w.1, w.2, f), hw, rfl⟩
      refine (mem_orAll_kept (fun v w => by simp [Investment.ofWay_same]) (h.defence x.isPhysical) hfound
        (Consistent.allowsWay hseen _) ⟨full, hx⟩ v).trans ?_
      simp
    · -- the other defence is not touched, and the strike says nothing about it
      have hother : defenceName physical ∉ [x.defenceStat, "hp"] := by
        cases physical <;> cases hx : x.isPhysical <;> simp_all [Strike.defenceStat, defenceName]
      rw [Tracker.possible, hstep.only.rest _ hother, ← Tracker.possible, h.defence physical]
      simp [hphysical]
  · simp only [allowsPoints_append]
    rw [Tracker.possible, hpoints, Option.getD_some]
    have hfound : ∀ v, v ∈ (x.defences rules).map (fun w => Investment.ofPoints w.2.2) ↔
        ∃ full, v = Investment.ofPoints full ∧ ∃ way : Bool × Bool, (way.1, way.2, full) ∈ x.defences rules := by
      intro v
      rw [List.mem_map]
      constructor
      · rintro ⟨w, hw, rfl⟩
        exact ⟨w.2.2, rfl, (w.1, w.2.1), hw⟩
      · rintro ⟨f, rfl, w, hw⟩
        exact ⟨(w.1, w.2, f), hw, rfl⟩
    exact mem_orAll_kept (fun v w => by simp [Investment.ofPoints_same]) h.points hfound
      (Consistent.allowsPoints hseen) ⟨_, hx⟩ v

private theorem exact_of_open (h : t.Open p) : Exact rules p [] t := by
  refine ⟨fun physical v => ?_, fun v => ?_⟩
  · rw [Tracker.possible, h.stat _ (by cases physical <;> simp [defenceName]), Option.getD_some]
    constructor
    · intro hv
      obtain ⟨way, -, rfl⟩ := List.mem_map.1 hv
      exact ⟨way, rfl, by simp [AllowsWay]⟩
    · rintro ⟨way, rfl, -⟩
      exact Investment.ofWay_mem_all way
  · rw [Tracker.possible, h.points, Option.getD_some]
    constructor
    · intro hv
      simp only [Investment.allPoints, List.mem_cons, List.not_mem_nil, or_false] at hv
      rcases hv with rfl | rfl
      · exact ⟨true, rfl, by simp [AllowsPoints]⟩
      · exact ⟨false, rfl, by simp [AllowsPoints]⟩
    · rintro ⟨full, rfl, -⟩
      exact Investment.ofPoints_mem_allPoints full

/-! ### Runs that start open -/

theorem Strike.landsOn_unique {q : String} (hp : x.landsOn p = true) (hq : x.landsOn q = true) : p = q := by
  unfold Strike.landsOn at hp hq
  simp only [Bool.and_eq_true] at hp hq
  rcases hdef : x.event.field "def_poke" with _ | v
  · simp [hdef, bind, Except.bind, Outcome.holds] at hp
  · cases v <;> simp_all [bind, Except.bind, Outcome.holds, Value.isText]

/-- What is known stays exact under a strike. -/
private theorem Exact.strike {me event : Value} (h : Exact rules p seen t)
    (hc : Consistent rules (seen ++ [⟨t.mine, me, event⟩].filter (Strike.landsOn p)))
    (hlearn : (Tracker.learnEvent rules me event).apply t = (.ok (), t')) :
    Exact rules p (seen ++ [⟨t.mine, me, event⟩].filter (Strike.landsOn p)) t' := by
  -- a strike that does not land on the creature adds nothing to what was seen
  have hmiss : Strike.landsOn p ⟨t.mine, me, event⟩ = false →
      (∀ stat ∈ ["def", "spd", "hp"], (t'.knowledge p).get? stat = (t.knowledge p).get? stat) →
      Exact rules p (seen ++ [⟨t.mine, me, event⟩].filter (Strike.landsOn p)) t' := by
    intro hno hsame
    rw [List.filter_cons_of_neg (by simp [hno]), List.filter_nil, List.append_nil]
    exact h.congr hsame
  rcases Tracker.learnEvent_cases hlearn with ⟨q, hq, hstep⟩ | ⟨q, hq, hstep⟩ | ⟨hno, -, hsame⟩
  · by_cases hpq : p = q
    · subst hpq
      rw [List.filter_cons_of_pos hq, List.filter_nil] at hc ⊢
      exact h.defenceStep hc hstep
    · refine hmiss ?_ fun stat _ => by rw [hstep.only.knowledge_of_ne hpq]
      rw [← Bool.not_eq_true]
      exact fun hp => hpq (Strike.landsOn_unique hp hq)
  · refine hmiss ?_ fun stat hstat => hstep.only.get?_of_not_mem ?_ p
    · unfold Strike.comesFrom at hq
      simp only [Bool.and_eq_true, Bool.not_eq_true'] at hq
      simp [Strike.landsOn, hq.1.2]
    · unfold Strike.attackStat
      simp only [List.mem_cons, List.not_mem_nil, or_false] at hstat
      rcases hstat with rfl | rfl | rfl <;> split <;> decide
  · refine hmiss ?_ fun stat _ => by rw [Tracker.knowledge, Tracker.knowledge, hsame]
    simp [Strike.landsOn, hno]

/-- A tracker after a run that starts by taking everything for possible for a creature and then only takes note of
positions and learns from turns; `seen` are the player's strikes on the creature, in order. -/
def Watched (rules : Rules) (p : String) (seen : List Strike) (t : Tracker) : Prop :=
  ∃ (start : Tracker) (team active : Value) (calls : List Call),
    Tracker.Names team active p ∧ (∀ call ∈ calls, call.isLearning = true) ∧
    (run rules (.initialise team active :: calls)).apply start = (.ok (), t) ∧
    seen = (strikes start.mine calls).filter (Strike.landsOn p)

private theorem Watched.exact (h : Watched rules p seen t) (hc : Consistent rules seen) : Exact rules p seen t := by
  obtain ⟨start, team, active, calls, hnames, hlearning, hrun, rfl⟩ := h
  rw [run, Change.bind_eq_ok] at hrun
  obtain ⟨_, t₁, hinit, hrun⟩ := hrun
  obtain ⟨hmine, hopen⟩ := Tracker.initialise_ok hinit
  have hP := run_induction
    (P := fun seen u => Consistent rules (seen.filter (Strike.landsOn p)) →
      Exact rules p (seen.filter (Strike.landsOn p)) u) ?_ [] (fun _ => exact_of_open ((hopen p).2 hnames)) hrun
  · rw [hmine] at hP
    exact hP hc
  intro call hcall seen u u' hP hperform
  cases call with
  | reset => cases hlearning _ hcall
  | initialise team active => cases hlearning _ hcall
  | update mine theirs =>
    cases hperform
    rw [Call.strikes, List.append_nil]
    exact fun hc => (hP hc).congr fun _ _ => rfl
  | learn me turn =>
    refine (Tracker.learnTurn_induction (P := fun seen u => Consistent rules (seen.filter (Strike.landsOn p)) →
      Exact rules p (seen.filter (Strike.landsOn p)) u) ?_ ?_ seen hP hperform).1
    · intro seen u u' event hP hlearn hc
      rw [List.filter_append] at hc ⊢
      exact (hP hc.left).strike hc hlearn
    · intro seen u u' hP hspeed hc
      refine (hP hc).congr fun stat hstat => Tracker.get?_of_besidesSpeed hspeed p ?_
      rintro rfl
      simp at hstat

/-- Exact inference.  If one investment in each defence and in the hit points explains all strikes on a creature, then
the entries that are possible for a defence are those that every strike on it allows, those possible for the hit
points are those that every strike allows, and another run with the same strikes in another order ends with the same
entries. -/
theorem possible_iff_allowed (h : Watched rules p seen t) (hc : Consistent rules seen) :
    (∀ v, v ∈ t.possible p "def" ↔ ∃ way, v = Investment.ofWay way ∧ AllowsWay rules seen true way) ∧
    (∀ v, v ∈ t.possible p "spd" ↔ ∃ way, v = Investment.ofWay way ∧ AllowsWay rules seen false way) ∧
    (∀ v, v ∈ t.possible p "hp" ↔ ∃ full, v = Investment.ofPoints full ∧ AllowsPoints rules seen full) ∧
    ∀ seen' t', Watched rules p seen' t' → seen'.Perm seen →
      ∀ stat ∈ ["def", "spd", "hp"], ∀ v, v ∈ t'.possible p stat ↔ v ∈ t.possible p stat := by
  have hexact := h.exact hc
  refine ⟨hexact.defence true, hexact.defence false, hexact.points, ?_⟩
  intro seen' t' h' hperm stat hstat v
  have hmem : ∀ x, x ∈ seen' ↔ x ∈ seen := fun x => hperm.mem_iff
  have hc' : Consistent rules seen' := by
    obtain ⟨way, full, hall⟩ := hc
    exact ⟨way, full, fun x hx => hall x ((hmem x).1 hx)⟩
  have hexact' := h'.exact hc'
  have hdefence : ∀ physical, v ∈ t'.possible p (defenceName physical) ↔ v ∈ t.possible p (defenceName physical) := by
    intro physical
    rw [hexact'.defence, hexact.defence]
    simp only [AllowsWay, hmem]
  simp only [List.mem_cons, List.not_mem_nil, or_false] at hstat
  rcases hstat with rfl | rfl | rfl
  · exact hdefence true
  · exact hdefence false
  · rw [hexact'.points, hexact.points]
    simp only [AllowsPoints, hmem]

/-- The tracker after the sample battle, when everything was taken for possible at its start. -/
def Sample.tracker : Tracker :=
  ((run Rules.standard (.initialise (.list []) Sample.foe :: Sample.turns)).apply Tracker.start).2

/-- The player's strikes in the sample battle. -/
def Sample.observed : List Strike := (strikes Tracker.start.mine Sample.turns).filter (Strike.landsOn "floatzel")

/-- The sample battle: two strikes meet one defence and one the other, and an investment explains all of them. -/
theorem sample_possible_iff_allowed :
    Watched Rules.standard "floatzel" Sample.observed Sample.tracker ∧ Consistent Rules.standard Sample.observed ∧
    (∀ v, v ∈ Sample.tracker.possible "floatzel" "def" ↔
      ∃ way, v = Investment.ofWay way ∧ AllowsWay Rules.standard Sample.observed true way) ∧
    (∀ v, v ∈ Sample.tracker.possible "floatzel" "hp" ↔
      ∃ full, v = Investment.ofPoints full ∧ AllowsPoints Rules.standard Sample.observed full) := by
  have hok : ((run Rules.standard (.initialise (.list []) Sample.foe :: Sample.turns)).apply
      Tracker.start).1.isOk = true := by decide +kernel
  have hwatched : Watched Rules.standard "floatzel" Sample.observed Sample.tracker :=
    ⟨Tracker.start, .list [], Sample.foe, Sample.turns, .inl rfl, by decide, Change.apply_of_isOk hok, rfl⟩
  have hconsistent : Consistent Rules.standard Sample.observed := ⟨fun _ => (true, false), false, by decide +kernel⟩
  have hall := possible_iff_allowed hwatched hconsistent
  exact ⟨hwatched, hconsistent, hall.1, hall.2.2.1⟩

end Docsmith.Battle
