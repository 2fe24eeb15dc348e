import Docsmith.Proofs.Battle.Training

/-!
# Training a creature again

Training computes the hit points and the stats anew from the base stats, the level, the effort and the nature, so that
it makes no difference to them how the creature was trained before (`setStats_agree`).  Two attributes remember more:
the effort is the one that the creature was made with, and the name of what is raised stays when a nature raises
nothing.  After any number of trainings a creature is like a fresh one but for these two, and for them exactly when
they happen to be the same (`trained_as_fresh_iff`).
-/

namespace Docsmith.Battle

namespace Creature

variable {rules : Rules} {s s' t t' : Attributes}

/-- Trains a creature with natures and efforts, one after the other. -/
def train (rules : Rules) (calls : List (Value × Value)) : Change Attributes Unit :=
  forM calls fun c => setStats rules c.1 c.2

/-- The options of the same creature with another nature and effort. -/
def retrained (options : Fields Value) (call : Value × Value) : Fields Value :=
  (options.put "nature" call.1).put "evs" call.2

/-- The attribute that was raised last by some natures, or null. -/
def lastRaised (rules : Rules) (natures : List Value) : Value := natures.foldl (raisedAfter rules) .null

/-! ### One training -/

/-- A nature does the same to creatures with the same stats. -/
private theorem applyNature_agree {nature : Value} (hfit : IsTemper computedNames nature)
    (hagree : ∀ name ∈ computedNames, s.get? name = t.get? name) (h : (applyNature nature).apply t = (.ok (), t')) :
    ∃ s', (applyNature nature).apply s = (.ok (), s') ∧ ∀ name ∈ computedNames, s'.get? name = t'.get? name := by
  rcases applyNature_eq_ok.1 h with
    ⟨hincrease, rfl⟩ | ⟨up, down, p, q, m, n, hincrease, hdecrease, hp, hm, hq, hn, rfl⟩
  · exact ⟨s, applyNature_eq_ok.2 (.inl ⟨hincrease, rfl⟩), hagree⟩
  obtain ⟨hup, hdown⟩ := hfit.mem hincrease hdecrease
  rw [← attr_congr (hagree up hup)] at hp
  rw [← attr_congr (hagree down hdown)] at hq
  refine ⟨_, applyNature_eq_ok.2 (.inr ⟨up, down, p, q, m, n, hincrease, hdecrease, hp, hm, hq, hn, rfl⟩), ?_⟩
  intro name hname
  simp only [Fields.get?_put, hagree name hname]

/-- Creatures with the same base stats and level. -/
def Kin (s t : Attributes) : Prop := s.get? "base_stats" = t.get? "base_stats" ∧ s.get? "level" = t.get? "level"

private theorem Kin.trans {u : Attributes} (h : Kin s t) (h' : Kin t u) : Kin s u := ⟨h.1.trans h'.1, h.2.trans h'.2⟩

private theorem kin_of_leaves (h : ∀ name, name ∉ "increase_stat" :: computedNames → s'.get? name = s.get? name) :
    Kin s' s :=
  ⟨h _ (by decide), h _ (by decide)⟩

/-- Training gives the same stats to all creatures with the same base stats and level, whatever they were before. -/
private theorem setStats_agree {nature effort : Value} (hnature : Tempered rules nature) (hkin : Kin s t)
    (h : (setStats rules nature effort).apply t = (.ok (), t')) :
    ∃ s', (setStats rules nature effort).apply s = (.ok (), s') ∧
      ∀ name ∈ computedNames, s'.get? name = t'.get? name := by
  obtain ⟨base, level, plain, entry, hbase, hlevel, hplain, hentry, h⟩ := setStats_eq_ok.1 h
  have hnames := names_plainStats hplain
  have hagree : ∀ name ∈ computedNames, (plain.overlay s).get? name = (plain.overlay t).get? name := by
    intro name hname
    obtain ⟨v, hv⟩ := Option.isSome_iff_exists.1 (Fields.get?_isSome_iff.2 (hnames ▸ hname))
    have hnodup : plain.names.Nodup := by
      rw [hnames]
      decide
    rw [Fields.get?_overlay hnodup hv, Fields.get?_overlay hnodup hv]
  obtain ⟨s', hs', hagree'⟩ := applyNature_agree (hnature _ hentry) hagree h
  refine ⟨s', setStats_eq_ok.2 ⟨base, level, plain, entry, ?_, ?_, hplain, hentry, hs'⟩, hagree'⟩
  · rw [attr_congr hkin.1, hbase]
  · rw [attr_congr hkin.2, hlevel]

/-! ### Training again and again -/

/-- A creature is trained as often as one likes, if each training would do for a creature like it. -/
private theorem train_ok (hrules : ∀ nature, Tempered rules nature) {calls : List (Value × Value)} {last : Value}
    (haccepted : ∀ c ∈ calls, ∃ t t', Kin s t ∧ (setStats rules c.1 c.2).apply t = (.ok (), t'))
    (hlast : s.get? "increase_stat" = some last) :
    ∃ s', (train rules calls).apply s = (.ok (), s') ∧
      (∀ name, name ∉ "increase_stat" :: computedNames → s'.get? name = s.get? name) ∧
      s'.get? "increase_stat" = some ((calls.map (·.1)).foldl (raisedAfter rules) last) := by
  induction calls generalizing s last with
  | nil => exact ⟨s, rfl, fun _ _ => rfl, hlast⟩
  | cons c calls ih =>
    obtain ⟨⟨t, t', hkin, ht⟩, haccepted⟩ := List.forall_mem_cons.1 haccepted
    obtain ⟨u, hu, -⟩ := setStats_agree (hrules c.1) hkin ht
    obtain ⟨hnext, hkeep⟩ := setStats_leaves (hrules c.1) hu hlast
    have haccepted' : ∀ d ∈ calls, ∃ t t', Kin u t ∧ (setStats rules d.1 d.2).apply t = (.ok (), t') := by
      intro d hd
      obtain ⟨t, t', hkin, ht⟩ := haccepted d hd
      exact ⟨t, t', (kin_of_leaves hkeep).trans hkin, ht⟩
    obtain ⟨s', hs', hkeep', hlast'⟩ := ih haccepted' hnext
    refine ⟨s', ?_, fun name hname => (hkeep' name hname).trans (hkeep name hname), hlast'⟩
    rw [train, List.forM_cons, Change.apply_bind_of_ok hu]
    exact hs'

/-! ### New creatures and old ones -/

variable {options : Fields Value} {made fresh : Attributes} {history : List (Value × Value)} {final : Value × Value}

/-- A creature made with another nature and effort has been trained with them, from the same base stats and level. -/
private theorem make_retrained (hrules : ∀ nature, Tempered rules nature) (hmade : make rules options = .ok made)
    {call : Value × Value} (h : make rules (retrained options call) = .ok fresh) :
    ∃ t t', Kin made t ∧ (setStats rules call.1 call.2).apply t = (.ok (), t') ∧
      ∀ name ∈ computedNames, fresh.get? name = t'.get? name := by
  obtain ⟨name, species, types, base, number, moves, hname, hspecies, htypes, hbase, -, hleaves⟩ :=
    make_leaves (hrules _) hmade
  obtain ⟨name', species', types', base', number', given', moves', grown, hname', -, hspecies', -, hbase', hset, rfl⟩ :=
    make_ok h
  obtain rfl : name = name' := by
    rw [retrained, Fields.get?_put_of_ne (by decide), Fields.get?_put_of_ne (by decide), hname] at hname'
    exact Option.some.inj hname'
  cases hspecies.symm.trans hspecies'
  cases hbase.symm.trans hbase'
  have hnature : natureName (retrained options call) = call.1 := by simp [natureName, retrained]
  have heffort : effortOf (retrained options call) = call.2 := by simp [effortOf, retrained]
  have hlevel : levelOf (retrained options call) = levelOf options := by simp [levelOf, retrained]
  rw [hnature, heffort] at hset
  refine ⟨_, grown, ⟨?_, ?_⟩, hset, fun other hother => get?_finished ?_⟩
  · rw [hleaves _ (by decide)]
    simp [newborn, Fields.get?]
  · rw [hleaves _ (by decide)]
    simp [newborn, Fields.get?, hlevel]
  · have hnames : ∀ name ∈ computedNames, name ∉ ["boosts", "volatile_status"] := by decide
    exact hnames other hother

/-- However often a creature was trained, training it once more gives it the stats of a fresh one; what it keeps from
before are the effort that it was made with and, if no nature has raised anything since, what was raised last. -/
private theorem train_made (hrules : ∀ nature, Tempered rules nature) (hmade : make rules options = .ok made)
    (hhistory : ∀ c ∈ history, ∃ q, make rules (retrained options c) = .ok q)
    (hfresh : make rules (retrained options final) = .ok fresh) :
    ∃ trained, (train rules (history ++ [final])).apply made = (.ok (), trained) ∧
      (∀ name ∈ computedNames, trained.get? name = fresh.get? name) ∧
      trained.get? "increase_stat" =
        some (raisedAfter rules (lastRaised rules (natureName options :: history.map (·.1))) final.1) ∧
      trained.get? "evs" = some (effortOf options) := by
  obtain ⟨name, species, types, base, number, moves, -, -, -, -, hraised, hleaves⟩ := make_leaves (hrules _) hmade
  have haccepted : ∀ c ∈ history, ∃ t t', Kin made t ∧ (setStats rules c.1 c.2).apply t = (.ok (), t') := by
    intro c hc
    obtain ⟨q, hq⟩ := hhistory c hc
    obtain ⟨t, t', hkin, ht, -⟩ := make_retrained hrules hmade hq
    exact ⟨t, t', hkin, ht⟩
  obtain ⟨s, hs, hkeep, hlast⟩ := train_ok hrules haccepted hraised
  obtain ⟨t, t', hkin, ht, hstats⟩ := make_retrained hrules hmade hfresh
  obtain ⟨trained, htrained, hagree⟩ := setStats_agree (hrules _) ((kin_of_leaves hkeep).trans hkin) ht
  obtain ⟨hincrease, hkeep'⟩ := setStats_leaves (hrules _) htrained hlast
  refine ⟨trained, ?_, fun name hname => (hagree name hname).trans (hstats name hname).symm, ?_, ?_⟩
  · rw [train] at hs
    rw [train, List.forM_append, Change.apply_bind_of_ok hs, List.forM_cons, Change.apply_bind_of_ok htrained]
    rfl
  · rw [hincrease, lastRaised, List.foldl_cons, raisedAfter_null]
  · rw [hkeep' _ (by decide), hkeep _ (by decide), hleaves _ (by decide)]
    simp [newborn, Fields.get?]

private theorem make_retrained_leaves (hrules : ∀ nature, Tempered rules nature)
    (h : make rules (retrained options final) = .ok fresh) :
    fresh.get? "increase_stat" = some (raisedBy rules final.1) ∧ fresh.get? "evs" = some final.2 := by
  obtain ⟨name, species, types, base, number, moves, -, -, -, -, hraised, hleaves⟩ := make_leaves (hrules _) h
  refine ⟨?_, ?_⟩
  · rw [hraised]
    simp [natureName, retrained]
  · rw [hleaves _ (by decide)]
    simp [newborn, Fields.get?, effortOf, retrained]

/-- A creature that is trained again and again has the stats of one that was made with the last nature and effort.  The
name of what its nature raises is the same exactly if the last nature raises something, or no nature before did; and its
effort exactly if the creature was made with the last one. -/
theorem trained_as_fresh_iff (hrules : ∀ nature, Tempered rules nature)
    (hmade : make rules options = .ok made) (hhistory : ∀ c ∈ history, ∃ q, make rules (retrained options c) = .ok q)
    (hfresh : make rules (retrained options final) = .ok fresh) :
    ∃ trained, (train rules (history ++ [final])).apply made = (.ok (), trained) ∧
      (∀ name ∈ computedNames, (Value.creature trained).attr name = (Value.creature fresh).attr name) ∧
      ((Value.creature trained).attr "increase_stat" = (Value.creature fresh).attr "increase_stat" ↔
        raisedBy rules final.1 ≠ .null ∨ lastRaised rules (natureName options :: history.map (·.1)) = .null) ∧
      ((Value.creature trained).attr "evs" = (Value.creature fresh).attr "evs" ↔ effortOf options = final.2) := by
  obtain ⟨trained, htrained, hstats, hraised, heffort⟩ := train_made hrules hmade hhistory hfresh
  obtain ⟨hraised', heffort'⟩ := make_retrained_leaves hrules hfresh
  refine ⟨trained, htrained, fun name hname => attr_congr (hstats name hname), ?_, ?_⟩
  · rw [attr_of_get? hraised, attr_of_get? hraised', Except.ok.injEq, raisedAfter_eq_raisedBy_iff]
  · rw [attr_of_get? heffort, attr_of_get? heffort', Except.ok.injEq]

end Creature

open Creature

namespace Sample

/-- An adamant spinda with all its effort in the attack. -/
def adamant : Fields Value :=
  [("name", .text "spinda"), ("moves", .list [.text "return"]), ("nature", .text "adamant"),
   ("evs", .record [("atk", .int 252)])]

/-- A nature that changes nothing, and no effort. -/
def idle : Value × Value := (.text "quirky", .record [])

/-- A nature that raises the speed, and effort in it. -/
def racing : Value × Value := (.text "jolly", .record [("spe", .int 252), ("hp", .int 4)])

end Sample

theorem sample_trained_as_fresh_iff :
    ∃ made fresh trained, make .standard Sample.adamant = .ok made ∧
      make .standard (retrained Sample.adamant Sample.racing) = .ok fresh ∧
      (train .standard ([Sample.idle, Sample.racing, Sample.idle] ++ [Sample.racing])).apply made = (.ok (), trained) ∧
      (∀ name ∈ computedNames, (Value.creature trained).attr name = (Value.creature fresh).attr name) ∧
      (Value.creature trained).attr "increase_stat" = (Value.creature fresh).attr "increase_stat" ∧
      (Value.creature trained).attr "evs" ≠ (Value.creature fresh).attr "evs" := by
  have hevaluated : (make .standard Sample.adamant).isOk = true ∧
      (make .standard (retrained Sample.adamant Sample.racing)).isOk = true ∧
      (make .standard (retrained Sample.adamant Sample.idle)).isOk = true := by
    decide +kernel
  obtain ⟨hmade, hracing, hidle⟩ := hevaluated
  replace hmade := Outcome.eq_ok_getD [] hmade
  replace hracing := Outcome.eq_ok_getD [] hracing
  replace hidle := Outcome.eq_ok_getD [] hidle
  have hhistory : ∀ c ∈ [Sample.idle, Sample.racing, Sample.idle],
      ∃ q, make .standard (retrained Sample.adamant c) = .ok q := by
    simp only [List.forall_mem_cons]
    exact ⟨⟨_, hidle⟩, ⟨_, hracing⟩, ⟨_, hidle⟩, by simp⟩
  obtain ⟨trained, htrained, hstats, hraised, heffort⟩ :=
    trained_as_fresh_iff standard_tempered hmade hhistory hracing
  have hspeed : raisedBy .standard Sample.racing.1 = .text "speed" := rfl
  refine ⟨_, _, trained, hmade, hracing, htrained, hstats, hraised.2 (.inl (by simp [hspeed])), ?_⟩
  rw [Ne, heffort]
  simp [Sample.racing, Sample.adamant, effortOf, Fields.get?]

/-- A creature that was adamant and is trained with a nature that raises nothing, and with no effort, still names the
attack as what is raised, and the effort that it was made with. -/
theorem raised_and_effort_remain :
    ∃ made trained fresh, make .standard Sample.adamant = .ok made ∧
      (train .standard [Sample.idle]).apply made = (.ok (), trained) ∧
      make .standard (retrained Sample.adamant Sample.idle) = .ok fresh ∧
      (Value.creature trained).attr "increase_stat" = .ok (.text "attack") ∧
      (Value.creature fresh).attr "increase_stat" = .ok .null ∧
      (Value.creature trained).attr "evs" = .ok (.record [("atk", .int 252)]) ∧
      (Value.creature fresh).attr "evs" = .ok (.record []) := by
  have hevaluated : (make .standard Sample.adamant).isOk = true ∧
      (make .standard (retrained Sample.adamant Sample.idle)).isOk = true := by
    decide +kernel
  obtain ⟨hmade, hidle⟩ := hevaluated
  replace hmade := Outcome.eq_ok_getD [] hmade
  replace hidle := Outcome.eq_ok_getD [] hidle
  have hhistory : ∀ c ∈ ([] : List (Value × Value)), ∃ q, make .standard (retrained Sample.adamant c) = .ok q := by
    simp
  obtain ⟨trained, htrained, -, hraised, heffort⟩ := train_made standard_tempered hmade hhistory hidle
  obtain ⟨hraised', heffort'⟩ := make_retrained_leaves standard_tempered hidle
  exact ⟨_, trained, _, hmade, htrained, hidle, attr_of_get? hraised, attr_of_get? hraised', attr_of_get? heffort,
    attr_of_get? heffort'⟩

end Docsmith.Battle
